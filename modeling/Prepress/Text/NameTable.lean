/-
# Names of characters

The names and the other names of the characters of Unicode, version 14, but for the syllables of
Korean and the unified ideographs, whose names follow rules.  Names that differ in their last word
alone make one entry: the words that they share, an equals sign, and the last words with commas
between them.  Semicolons stand between entries, and lines may end anywhere.
-/
import Prepress.Text.Blank

namespace Prepress.Text

/-- The entries of the table. -/
def nameEntries : String :=
"=ABACUS,ACCORDION,ACK,ACKNOWLEDGE,ADMETOS,ADULT,AIRPLANE,AKTIESELSKAB,ALEMBIC,ALERT,ALM,AMBULANCE,
AMPERSAND,AMPHORA,ANCHOR,ANGLE,ANKH,ANT,APC,APOLLON,APOSTROPHE,AQUARIUS,ARC,ARIES,ASSERTION,
ASTERISK,ASTERISM,ASTRAEA,AUBERGINE,AUTOMOBILE,AVOCADO,AXE,BABY,BACKSPACE,BACON,BADGER,BAGEL,
BALLOON,BANANA,BANJO,BANK,BASEBALL,BASKET,BAT,BATH,BATHTUB,BATTERY,BEANS,BEAVER,BECAUSE,BED,BEETLE,
BEL,BELL,BETWEEN,BICYCLE,BICYCLIST,BIKINI,BILLIARDS,BIRD,BISON,BLOSSOM,BLOWFISH,BLUEBERRIES,BOAR,
BOM,BOMB,BONE,BOOK,BOOKMARK,BOOKS,BOOMERANG,BOUQUET,BOWLING,BOWTIE,BOY,BPH,BRAIN,BREAD,
BREAST-FEEDING,BREVE,BRICK,BRIEFCASE,BRIEFS,BROCCOLI,BROOM,BS,BUBBLES,BUCKET,BUG,BULLET,BULLHORN,
BULLSEYE,BURRITO,BUS,BUTTER,BUTTERFLY,CACTUS,CADUCEUS,CALENDAR,CAMERA,CAMPING,CAN,CANCEL,CANCER,
CANDLE,CANDY,CANOE,CAPITULUM,CAPRICORN,CARET,CARON,CARROT,CASTLE,CAT,CCH,CEDILLA,CERES,CGJ,CHAINS,
CHAIR,CHERRIES,CHESTNUT,CHICKEN,CHILD,CHIPMUNK,CHIRON,CHOPSTICKS,CHURCH,CINEMA,CITYSCAPE,CLIPBOARD,
CLOUD,COAT,COCKROACH,COCONUT,COFFIN,COIN,COLON,COMET,COMMA,COMPASS,COMPLEMENT,COMPRESSION,
CONJUNCTION,COOKIE,COOKING,CORAL,COUNTERBORE,COUNTERSINK,COW,CR,CRAB,CRICKET,CROCODILE,CROISSANT,
CROWN,CRUTCH,CSI,CUCUMBER,CUPCAKE,CUPIDO,CUSTARD,CUSTOMS,CYCLONE,CYLINDRICITY,DAGGER,DANCER,DANGO,
DC1,DC2,DC3,DC4,DCS,DEER,DEL,DELETE,DESERT,DIAERESIS,DIVIDES,DLE,DOCUMENT,DODO,DOG,DOLPHIN,DOOR,
DOUGHNUT,DRAGON,DRESS,DROPLET,DUCK,DUMPLING,DVD,EAGLE,EAR,EARTH,EGG,ELEPHANT,ELEVATOR,ELF,ENQ,
ENQUIRY,ENVELOPE,EOL,EOM,EOT,EPA,ESA,ESC,ESCAPE,ESTIMATES,ETB,ETX,EXCESS,EYE,EYEGLASSES,EYES,
FACTORY,FAIRY,FALAFEL,FAMILY,FEATHER,FENCER,FERRY,FF,FIRE,FIRECRACKER,FIREWORKS,FISH,FISHEYE,
FLAMINGO,FLATBREAD,FLATNESS,FLEUR-DE-LIS,FLOWER,FLY,FOG,FOGGY,FOLDER,FONDUE,FOOT,FOOTPRINTS,FORCES,
FORKING,FOUNTAIN,FROWN,FS,FSI,FUSE,FVS1,FVS2,FVS3,FVS4,GARLIC,GEAR,GEMINI,GENIE,GHOST,GIRL,GLOVES,
GOAT,GOGGLES,GOLFER,GORILLA,GRAPES,GS,GUARDSMAN,GUITAR,HADES,HAIRCUT,HAMBURGER,HAMMER,HAMSA,
HANDBAG,HANDBALL,HANDSHAKE,HEADPHONE,HEADSTONE,HEDGEHOG,HELICOPTER,HERB,HIBISCUS,HIPPOPOTAMUS,
HOCHO,HOLE,HOMOTHETIC,HONEYBEE,HOOK,HOP,HORSE,HOSPITAL,HOTEL,HOURGLASS,HOUSE,HT,HTJ,HTS,HUT,HYGIEA,
HYPHEN,HYPHEN-MINUS,HYPODIASTOLE,IMP,INCREMENT,IND,INDEX,INFINITY,INTEGRAL,INTERCALATE,INTERROBANG,
INTERSECTION,JACK-O-LANTERN,JAR,JEANS,JOIN,JOYSTICK,JUGGLING,JUNO,JUPITER,KAABA,KANGAROO,KEY,
KEYBOARD,KIMONO,KISS,KITE,KIWIFRUIT,KNOT,KOALA,KRONOS,LABEL,LADDER,LEDGER,LEG,LEMON,LEO,LEOPARD,LF,
LIBRA,LIGHTNING,LIPS,LIPSTICK,LIZARD,LLAMA,LOBSTER,LOCK,LOLLIPOP,LOTUS,LOZENGE,LRE,LRI,LRM,LRO,
LUGGAGE,LUNGS,MACRON,MAGE,MAGNET,MAMMOTH,MAN,MANGO,MAXIMIZE,MELON,MEMO,MERCURY,MERPERSON,METRO,
MICROBE,MICROPHONE,MICROSCOPE,MINIBUS,MINIDISC,MINIMIZE,MINY,MIRROR,MMSP,MODELS,MONKEY,MONORAIL,
MOSQUE,MOSQUITO,MOTORWAY,MOUNTAIN,MOUSE,MOUTH,MOYAI,MULTIMAP,MULTISET,MUSHROOM,MVS,MW,NABLA,NAK,
NAND,NBH,NBSP,NECKTIE,NEL,NEPTUNE,NESSUS,NEUTER,NEWSPAPER,NINJA,NL,NNBSP,NONFORKING,NOR,NOSE,NOTE,
NOTEBOOK,NUL,NULL,OCTOPUS,ODEN,OGONEK,OLIVE,ONION,OPHIUCHUS,OPPOSITION,ORANGUTAN,OSC,OTTER,OVERLAP,
OVERLINE,OWL,OX,OYSTER,PACKAGE,PAD,PAGE,PAGER,PAGES,PAGODA,PALLAS,PANCAKES,PAPERCLIP,PARACHUTE,
PARAGRAPHOS,PARROT,PDF,PDI,PEACH,PEACOCK,PEANUTS,PEAR,PEDESTRIAN,PENCIL,PENGUIN,PENTAGRAM,
PERPENDICULAR,PERSPECTIVE,PHOLUS,PICK,PIE,PIG,PILL,PINATA,PINEAPPLE,PISCES,PISTOL,PITCHFORK,
PLACARD,PLD,PLU,PLUNGER,PLUTO,PM,POODLE,POPCORN,POSEIDON,POSTBOX,POTATO,POUCH,PRECEDES,PRETZEL,
PRIME,PRINCE,PRINCESS,PRINTER,PROJECTIVE,PROPORTION,PROSERPINA,PU1,PU2,PURSE,PUSHPIN,QUINCUNX,
RABBIT,RACCOON,RADIO,RAIN,RAINBOW,RAM,RAT,RATIO,RAZOR,RECEIPT,RESPONSE,RESTROOM,RHINOCEROS,RI,
RIBBON,RIFLE,RING,RLE,RLI,RLM,RLO,ROCK,ROCKET,ROOSTER,ROSE,ROSETTE,ROWBOAT,RS,RULE-DELAYED,RUNNER,
SAGITTARIUS,SAILBOAT,SALTIRE,SANDWICH,SARI,SATELLITE,SATURN,SAUROPOD,SAXOPHONE,SCALES,SCARF,SCHOOL,
SCI,SCOOTER,SCORPION,SCORPIUS,SCREEN,SCREWDRIVER,SCROLL,SCRUPLE,SEAL,SEAT,SECTOR,SEDNA,SEEDLING,
SEGMENT,SELFIE,SEMICOLON,SEMISEXTILE,SESQUIQUADRATE,SEXTILE,SGC,SHAMROCK,SHARK,SHEEP,SHIELD,SHIP,
SHORTCAKE,SHORTS,SHOWER,SHRIMP,SHRUG,SHY,SI,SINGLE-SHIFT-2,SINGLE-SHIFT-3,SKATEBOARD,SKIER,SKULL,
SKUNK,SLED,SLOPE,SLOTH,SMILE,SNAIL,SNAKE,SNOWBOARDER,SNOWFLAKE,SNOWMAN,SO,SOCKS,SOFTBALL,SOH,
SOLIDUS,SOS,SP,SPA,SPACE,SPAGHETTI,SPARKLE,SPARKLES,SPEAKER,SPEEDBOAT,SPIDER,SPONGE,SPOON,SQUID,
SS2,SS3,SSA,ST,STADIUM,STATION,STETHOSCOPE,STOPWATCH,STRAIGHTNESS,STRAWBERRY,STS,STUPA,STX,SUB,
SUBSTITUTE,SUCCEEDS,SUN,SUNFLOWER,SUNRISE,SUPERHERO,SUPERVILLAIN,SURFER,SUSHI,SWAN,SWIMMER,
SYMMETRY,SYN,SYNAGOGUE,SYRINGE,T-REX,T-SHIRT,TAB,TACO,TAMALE,TANGERINE,TAURUS,TAXI,TEAPOT,
TELESCOPE,TELEVISION,TENT,THEREFORE,THERMODYNAMIC,THERMOMETER,THUNDERSTORM,TICKET,TIGER,TILDE,TINY,
TOILET,TOMATO,TONGUE,TOOLBOX,TOOTH,TOOTHBRUSH,TRACKBALL,TRACTOR,TRAIN,TRAM,TRANSPLUTO,TRICOLON,
TROLL,TROLLEYBUS,TROPHY,TRUE,TRUMPET,TULIP,TURKEY,TURTLE,UMBRELLA,UNDERTIE,UNION,URANUS,US,VAMPIRE,
VERSICLE,VESTA,VIDEOCASSETTE,VIOLIN,VIRGO,VOLCANO,VOLLEYBALL,VS1,VS10,VS100,VS101,VS102,VS103,
VS104,VS105,VS106,VS107,VS108,VS109,VS11,VS110,VS111,VS112,VS113,VS114,VS115,VS116,VS117,VS118,
VS119,VS12,VS120,VS121,VS122,VS123,VS124,VS125,VS126,VS127,VS128,VS129,VS13,VS130,VS131,VS132,
VS133,VS134,VS135,VS136,VS137,VS138,VS139,VS14,VS140,VS141,VS142,VS143,VS144,VS145,VS146,VS147,
VS148,VS149,VS15,VS150,VS151,VS152,VS153,VS154,VS155,VS156,VS157,VS158,VS159,VS16,VS160,VS161,
VS162,VS163,VS164,VS165,VS166,VS167,VS168,VS169,VS17,VS170,VS171,VS172,VS173,VS174,VS175,VS176,
VS177,VS178,VS179,VS18,VS180,VS181,VS182,VS183,VS184,VS185,VS186,VS187,VS188,VS189,VS19,VS190,
VS191,VS192,VS193,VS194,VS195,VS196,VS197,VS198,VS199,VS2,VS20,VS200,VS201,VS202,VS203,VS204,VS205,
VS206,VS207,VS208,VS209,VS21,VS210,VS211,VS212,VS213,VS214,VS215,VS216,VS217,VS218,VS219,VS22,
VS220,VS221,VS222,VS223,VS224,VS225,VS226,VS227,VS228,VS229,VS23,VS230,VS231,VS232,VS233,VS234,
VS235,VS236,VS237,VS238,VS239,VS24,VS240,VS241,VS242,VS243,VS244,VS245,VS246,VS247,VS248,VS249,
VS25,VS250,VS251,VS252,VS253,VS254,VS255,VS256,VS26,VS27,VS28,VS29,VS3,VS30,VS31,VS32,VS33,VS34,
VS35,VS36,VS37,VS38,VS39,VS4,VS40,VS41,VS42,VS43,VS44,VS45,VS46,VS47,VS48,VS49,VS5,VS50,VS51,VS52,
VS53,VS54,VS55,VS56,VS57,VS58,VS59,VS6,VS60,VS61,VS62,VS63,VS64,VS65,VS66,VS67,VS68,VS69,VS7,VS70,
VS71,VS72,VS73,VS74,VS75,VS76,VS77,VS78,VS79,VS8,VS80,VS81,VS82,VS83,VS84,VS85,VS86,VS87,VS88,VS89,
VS9,VS90,VS91,VS92,VS93,VS94,VS95,VS96,VS97,VS98,VS99,VT,VTS,VULCANUS,WAFFLE,WASTEBASKET,WATCH,
WATERMELON,WEDDING,WHALE,WHEEL,WINDOW,WJ,WOMAN,WOOD,WORM,WRENCH,WRESTLERS,X-RAY,XOR,YO-YO,ZEUS,
ZOMBIE,ZWJ,ZWNBSP,ZWNJ,ZWSP;AC=CURRENT;ACCOUNT=OF;ACTIVATE ARABIC FORM=SHAPING;
ACTIVATE SYMMETRIC=SWAPPING;ACUTE=ACCENT,ANGLE;ADDRESSED TO THE=SUBJECT;ADHESIVE=BANDAGE;
ADI=SHAKTI;ADLAM=HAMZA,NUKTA;ADLAM ALIF=LENGTHENER;ADLAM CAPITAL LETTER=ALIF,BA,BHE,CHI,DAALI,DHA,
E,FA,GA,GBE,HA,I,JIIM,KAF,KHA,KPO,LAAM,MIIM,NHA,NUN,NYA,O,PE,QAAF,RA,SHA,SINNYIIYHE,TU,U,VA,WAW,YA,
YHE,ZAL;ADLAM CONSONANT=MODIFIER;ADLAM DIGIT=EIGHT,FIVE,FOUR,NINE,ONE,SEVEN,SIX,THREE,TWO,ZERO;
ADLAM GEMINATE CONSONANT=MODIFIER;ADLAM GEMINATION=MARK;ADLAM INITIAL EXCLAMATION=MARK;
ADLAM INITIAL QUESTION=MARK;ADLAM NASALIZATION=MARK;ADLAM SMALL LETTER=ALIF,BA,BHE,CHI,DAALI,DHA,E,
FA,GA,GBE,HA,I,JIIM,KAF,KHA,KPO,LAAM,MIIM,NHA,NUN,NYA,O,PE,QAAF,RA,SHA,SINNYIIYHE,TU,U,VA,WAW,YA,
YHE,ZAL;ADLAM VOWEL=LENGTHENER;ADMISSION=TICKETS;AEGEAN CHECK=MARK;
AEGEAN DRY MEASURE FIRST=SUBUNIT;AEGEAN LIQUID MEASURE FIRST=SUBUNIT;AEGEAN MEASURE SECOND=SUBUNIT;
AEGEAN MEASURE THIRD=SUBUNIT;AEGEAN NUMBER=EIGHT,EIGHTY,FIFTY,FIVE,FORTY,FOUR,NINE,NINETY,ONE,
SEVEN,SEVENTY,SIX,SIXTY,TEN,THIRTY,THREE,TWENTY,TWO;AEGEAN NUMBER EIGHT=HUNDRED,THOUSAND;
AEGEAN NUMBER EIGHTY=THOUSAND;AEGEAN NUMBER FIFTY=THOUSAND;AEGEAN NUMBER FIVE=HUNDRED,THOUSAND;
AEGEAN NUMBER FORTY=THOUSAND;AEGEAN NUMBER FOUR=HUNDRED,THOUSAND;AEGEAN NUMBER NINE=HUNDRED,
THOUSAND;AEGEAN NUMBER NINETY=THOUSAND;AEGEAN NUMBER ONE=HUNDRED,THOUSAND;
AEGEAN NUMBER SEVEN=HUNDRED,THOUSAND;AEGEAN NUMBER SEVENTY=THOUSAND;AEGEAN NUMBER SIX=HUNDRED,
THOUSAND;AEGEAN NUMBER SIXTY=THOUSAND;AEGEAN NUMBER TEN=THOUSAND;AEGEAN NUMBER THIRTY=THOUSAND;
AEGEAN NUMBER THREE=HUNDRED,THOUSAND;AEGEAN NUMBER TWENTY=THOUSAND;AEGEAN NUMBER TWO=HUNDRED,
THOUSAND;AEGEAN WEIGHT BASE=UNIT;AEGEAN WEIGHT FIRST=SUBUNIT;AEGEAN WEIGHT FOURTH=SUBUNIT;
AEGEAN WEIGHT SECOND=SUBUNIT;AEGEAN WEIGHT THIRD=SUBUNIT;AEGEAN WORD SEPARATOR=DOT,LINE;
AERIAL=TRAMWAY;AFGHANI=SIGN;AHOM CONSONANT SIGN MEDIAL=LA,RA;
AHOM CONSONANT SIGN MEDIAL LIGATING=RA;AHOM DIGIT=EIGHT,FIVE,FOUR,NINE,ONE,SEVEN,SIX,THREE,TWO,
ZERO;AHOM LETTER=A,BA,BHA,CA,CHA,DA,DDA,DDHA,DHA,GA,GHA,HA,JA,JHA,KA,KHA,LA,LLA,MA,NA,NGA,NNA,NYA,
PA,PHA,RA,SA,TA,THA,TTA,TTHA;AHOM LETTER ALTERNATE=BA,GA,TA;AHOM NUMBER=TEN,TWENTY;
AHOM SIGN=KILLER,RULAI,SECTION;AHOM SIGN SMALL=SECTION;AHOM SYMBOL=VI;AHOM VOWEL SIGN=A,AA,AI,AM,
AW,E,I,II,O,U,UU;AIRPLANE=ARRIVING,DEPARTURE;ALARM=CLOCK;ALCHEMICAL SYMBOL FOR=AIR,ALEMBIC,ALKALI,
ALKALI-2,ALUM,AMALGAM,AQUAFORTIS,ARSENIC,ASHES,AURIPIGMENT,BORAX,BORAX-2,BORAX-3,BRICK,CADUCEUS,
CALX,CINNABAR,CRUCIBLE,CRUCIBLE-2,CRUCIBLE-3,CRUCIBLE-4,CRUCIBLE-5,DAY-NIGHT,DISSOLVE,DISSOLVE-2,
DISTILL,EARTH,FIRE,GOLD,GUM,HOUR,LODESTONE,MARCASITE,MONTH,NIGHT,NITRE,OIL,POWDER,PRECIPITATE,
PURIFY,PUTREFACTION,QUINTESSENCE,REALGAR,REALGAR-2,REGULUS,REGULUS-2,REGULUS-3,REGULUS-4,RETORT,
SAL-AMMONIAC,SALT,SILVER,SOAP,SPIRIT,SUBLIMATION,SULFUR,TARTAR,TARTAR-2,TINCTURE,TRIDENT,TUTTY,
URINE,VERDIGRIS,VINEGAR,VINEGAR-2,VINEGAR-3,VITRIOL,VITRIOL-2,WATER,WAX;
ALCHEMICAL SYMBOL FOR ANTIMONY=ORE;ALCHEMICAL SYMBOL FOR AQUA=REGIA,REGIA-2,VITAE,VITAE-2;
ALCHEMICAL SYMBOL FOR BATH OF=MARY,VAPOURS;ALCHEMICAL SYMBOL FOR BISMUTH=ORE;
ALCHEMICAL SYMBOL FOR BLACK=SULFUR;ALCHEMICAL SYMBOL FOR CAPUT=MORTUUM;
ALCHEMICAL SYMBOL FOR COPPER=ANTIMONIATE,ORE;ALCHEMICAL SYMBOL FOR CROCUS OF=COPPER,COPPER-2,IRON;
ALCHEMICAL SYMBOL FOR HALF=DRAM,OUNCE;ALCHEMICAL SYMBOL FOR HORSE=DUNG;
ALCHEMICAL SYMBOL FOR IRON=ORE,ORE-2;ALCHEMICAL SYMBOL FOR IRON-COPPER=ORE;
ALCHEMICAL SYMBOL FOR LEAD=ORE;ALCHEMICAL SYMBOL FOR MERCURY=SUBLIMATE,SUBLIMATE-2,SUBLIMATE-3;
ALCHEMICAL SYMBOL FOR PHILOSOPHERS=SULFUR;ALCHEMICAL SYMBOL FOR POT=ASHES;
ALCHEMICAL SYMBOL FOR POWDERED=BRICK;ALCHEMICAL SYMBOL FOR QUICK=LIME;
ALCHEMICAL SYMBOL FOR REGULUS OF=ANTIMONY,ANTIMONY-2,IRON;ALCHEMICAL SYMBOL FOR ROCK=SALT,SALT-2;
ALCHEMICAL SYMBOL FOR SALT OF=ANTIMONY;ALCHEMICAL SYMBOL FOR SALT OF COPPER=ANTIMONIATE;
ALCHEMICAL SYMBOL FOR SCEPTER OF=JOVE;ALCHEMICAL SYMBOL FOR STARRED=TRIDENT;
ALCHEMICAL SYMBOL FOR STRATUM SUPER=STRATUM,STRATUM-2;ALCHEMICAL SYMBOL FOR SUBLIMATE OF=ANTIMONY,
COPPER;ALCHEMICAL SYMBOL FOR SUBLIMATE OF SALT OF=ANTIMONY,COPPER;ALCHEMICAL SYMBOL FOR TIN=ORE;
ALCHEMICAL SYMBOL FOR VINEGAR OF=ANTIMONY;ALEF=SYMBOL;ALIEN=MONSTER;ALL=AROUND-PROFILE;
ALL EQUAL=TO;ALMOST EQUAL=TO;ALMOST EQUAL OR EQUAL=TO;ALMOST EQUAL TO WITH CIRCUMFLEX=ACCENT;
ALTERNATE ONE-WAY LEFT WAY=TRAFFIC;ALTERNATIVE KEY=SYMBOL;AMALGAMATION OR=COPRODUCT;
AMERICAN=FOOTBALL;ANATOLIAN HIEROGLYPH=A001,A002,A003,A004,A005,A006,A007,A008,A009,A010,A010A,
A011,A012,A013,A014,A015,A016,A017,A018,A019,A020,A021,A022,A023,A024,A025,A026,A026A,A027,A028,
A029,A030,A031,A032,A033,A034,A035,A036,A037,A038,A039,A039A,A040,A041,A041A,A042,A043,A044,A045,
A045A,A046,A046A,A046B,A047,A048,A049,A050,A051,A052,A053,A054,A055,A056,A057,A058,A059,A060,A061,
A062,A063,A064,A065,A066,A066A,A066B,A066C,A067,A068,A069,A070,A071,A072,A073,A074,A075,A076,A077,
A078,A079,A080,A081,A082,A083,A084,A085,A086,A087,A088,A089,A090,A091,A092,A093,A094,A095,A096,
A097,A097A,A098,A098A,A099,A100,A100A,A101,A101A,A102,A102A,A103,A104,A104A,A104B,A104C,A105,A105A,
A105B,A106,A107,A107A,A107B,A107C,A108,A109,A110,A110A,A110B,A111,A112,A113,A114,A115,A115A,A116,
A117,A118,A119,A120,A121,A122,A123,A124,A125,A125A,A126,A127,A128,A129,A130,A131,A132,A133,A134,
A135,A135A,A136,A137,A138,A139,A140,A141,A142,A143,A144,A145,A146,A147,A148,A149,A150,A151,A152,
A153,A154,A155,A156,A157,A158,A159,A160,A161,A162,A163,A164,A165,A166,A167,A168,A169,A170,A171,
A172,A173,A174,A175,A176,A177,A178,A179,A180,A181,A182,A183,A184,A185,A186,A187,A188,A189,A190,
A191,A192,A193,A194,A195,A196,A197,A198,A199,A200,A201,A202,A202A,A202B,A203,A204,A205,A206,A207,
A207A,A208,A209,A209A,A210,A211,A212,A213,A214,A215,A215A,A216,A216A,A217,A218,A219,A220,A221,A222,
A223,A224,A225,A226,A227,A227A,A228,A229,A230,A231,A232,A233,A234,A235,A236,A237,A238,A239,A240,
A241,A242,A243,A244,A245,A246,A247,A248,A249,A250,A251,A252,A253,A254,A255,A256,A257,A258,A259,
A260,A261,A262,A263,A264,A265,A266,A267,A267A,A268,A269,A270,A271,A272,A273,A274,A275,A276,A277,
A278,A279,A280,A281,A282,A283,A284,A285,A286,A287,A288,A289,A289A,A290,A291,A292,A293,A294,A294A,
A295,A296,A297,A298,A299,A299A,A300,A301,A302,A303,A304,A305,A306,A307,A308,A309,A309A,A310,A311,
A312,A313,A314,A315,A316,A317,A318,A319,A320,A321,A322,A323,A324,A325,A326,A327,A328,A329,A329A,
A330,A331,A332A,A332B,A332C,A333,A334,A335,A336,A336A,A336B,A336C,A337,A338,A339,A340,A341,A342,
A343,A344,A345,A346,A347,A348,A349,A350,A351,A352,A353,A354,A355,A356,A357,A358,A359,A359A,A360,
A361,A362,A363,A364,A364A,A365,A366,A367,A368,A368A,A369,A370,A371,A371A,A372,A373,A374,A375,A376,
A377,A378,A379,A380,A381,A381A,A382,A383A,A384,A385,A386,A386A,A387,A388,A389,A390,A391,A392,A394,
A395,A396,A397,A398,A399,A400,A401,A402,A403,A404,A405,A406,A407,A408,A409,A411,A412,A413,A414,
A415,A416,A417,A418,A419,A420,A421,A422,A423,A424,A425,A426,A427,A428,A429,A430,A431,A432,A433,
A434,A435,A436,A437,A438,A439,A440,A441,A442,A443,A444,A445,A446,A447,A448,A449,A450,A450A,A451,
A452,A453,A454,A455,A456,A457,A457A,A458,A459,A460,A461,A462,A463,A464,A465,A466,A467,A468,A469,
A470,A471,A472,A473,A474,A475,A476,A477,A478,A479,A480,A481,A482,A483,A484,A485,A486,A487,A488,
A489,A490,A491,A492,A493,A494,A495,A496,A497,A501,A502,A503,A504,A505,A506,A507,A508,A509,A510,
A511,A512,A513,A514,A515,A516,A517,A518,A519,A520,A521,A522,A523,A524,A525,A526,A527,A528,A529,
A530;ANATOLIAN HIEROGLYPH A383 RA OR=RI;ANATOLIAN HIEROGLYPH A393=EIGHT;
ANATOLIAN HIEROGLYPH A410 BEGIN LOGOGRAM=MARK;ANATOLIAN HIEROGLYPH A410A END LOGOGRAM=MARK;
ANATOMICAL=HEART;AND WITH=DOT;ANGER=SYMBOL;ANGLE WITH=UNDERBAR;ANGLE WITH S=INSIDE;ANGRY=FACE;
ANGSTROM=SIGN;ANGUISHED=FACE;ANTENNA WITH=BARS;ANTICLOCKWISE=INTEGRATION;
ANTICLOCKWISE CLOSED CIRCLE=ARROW;ANTICLOCKWISE CONTOUR=INTEGRAL;
ANTICLOCKWISE DOWNWARDS AND UPWARDS OPEN CIRCLE=ARROWS;ANTICLOCKWISE GAPPED CIRCLE=ARROW;
ANTICLOCKWISE OPEN CIRCLE=ARROW;ANTICLOCKWISE TOP SEMICIRCLE=ARROW;
ANTICLOCKWISE TRIANGLE-HEADED BOTTOM U-SHAPED=ARROW;
ANTICLOCKWISE TRIANGLE-HEADED LEFT U-SHAPED=ARROW;ANTICLOCKWISE TRIANGLE-HEADED OPEN CIRCLE=ARROW;
ANTICLOCKWISE TRIANGLE-HEADED RIGHT U-SHAPED=ARROW;
ANTICLOCKWISE TRIANGLE-HEADED TOP U-SHAPED=ARROW;APL FUNCTIONAL SYMBOL=ALPHA,I-BEAM,IOTA,OMEGA,
QUAD,RHO,ZILDE;APL FUNCTIONAL SYMBOL ALPHA=UNDERBAR;APL FUNCTIONAL SYMBOL BACKSLASH=BAR;
APL FUNCTIONAL SYMBOL CIRCLE=BACKSLASH,DIAERESIS,JOT,STAR,STILE,UNDERBAR;
APL FUNCTIONAL SYMBOL COMMA=BAR;APL FUNCTIONAL SYMBOL DEL=DIAERESIS,STILE,TILDE;
APL FUNCTIONAL SYMBOL DELTA=STILE,UNDERBAR;APL FUNCTIONAL SYMBOL DIAMOND=UNDERBAR;
APL FUNCTIONAL SYMBOL DOWN CARET=TILDE;APL FUNCTIONAL SYMBOL DOWN SHOE=STILE;
APL FUNCTIONAL SYMBOL DOWN TACK=JOT,UNDERBAR;APL FUNCTIONAL SYMBOL DOWNWARDS=VANE;
APL FUNCTIONAL SYMBOL EPSILON=UNDERBAR;APL FUNCTIONAL SYMBOL GREATER-THAN=DIAERESIS;
APL FUNCTIONAL SYMBOL IOTA=UNDERBAR;APL FUNCTIONAL SYMBOL JOT=DIAERESIS,UNDERBAR;
APL FUNCTIONAL SYMBOL LEFT SHOE=STILE;APL FUNCTIONAL SYMBOL LEFTWARDS=VANE;
APL FUNCTIONAL SYMBOL OMEGA=UNDERBAR;APL FUNCTIONAL SYMBOL QUAD=BACKSLASH,CIRCLE,COLON,DEL,DELTA,
DIAMOND,DIVIDE,EQUAL,GREATER-THAN,JOT,LESS-THAN,QUESTION,SLASH;
APL FUNCTIONAL SYMBOL QUAD DOWN=CARET;APL FUNCTIONAL SYMBOL QUAD DOWNWARDS=ARROW;
APL FUNCTIONAL SYMBOL QUAD LEFTWARDS=ARROW;APL FUNCTIONAL SYMBOL QUAD NOT=EQUAL;
APL FUNCTIONAL SYMBOL QUAD RIGHTWARDS=ARROW;APL FUNCTIONAL SYMBOL QUAD UP=CARET;
APL FUNCTIONAL SYMBOL QUAD UPWARDS=ARROW;APL FUNCTIONAL SYMBOL QUOTE=QUAD,UNDERBAR;
APL FUNCTIONAL SYMBOL RIGHTWARDS=VANE;APL FUNCTIONAL SYMBOL SEMICOLON=UNDERBAR;
APL FUNCTIONAL SYMBOL SLASH=BAR;APL FUNCTIONAL SYMBOL SQUISH=QUAD;
APL FUNCTIONAL SYMBOL STAR=DIAERESIS;APL FUNCTIONAL SYMBOL STILE=TILDE;
APL FUNCTIONAL SYMBOL TILDE=DIAERESIS;APL FUNCTIONAL SYMBOL UP CARET=TILDE;
APL FUNCTIONAL SYMBOL UP SHOE=JOT;APL FUNCTIONAL SYMBOL UP TACK=DIAERESIS,JOT,OVERBAR;
APL FUNCTIONAL SYMBOL UPWARDS=VANE;APPLICATION PROGRAM=COMMAND;APPROACHES THE=LIMIT;
APPROXIMATELY BUT NOT ACTUALLY EQUAL=TO;APPROXIMATELY EQUAL=TO;APPROXIMATELY EQUAL OR EQUAL=TO;
APPROXIMATELY EQUAL TO OR THE IMAGE=OF;ARABIC=COMMA,DAMMA,DAMMATAN,FATHA,FATHATAN,KASRA,KASRATAN,
RAY,SEMICOLON,SHADDA,SUKUN,TATWEEL,ZWARAKAY;ARABIC BASELINE ROUND=DOT;ARABIC CURLY=DAMMA,DAMMATAN,
FATHA,FATHATAN,KASRA,KASRATAN;ARABIC DAMMA ISOLATED=FORM;ARABIC DAMMA MEDIAL=FORM;
ARABIC DAMMA WITH=DOT;ARABIC DAMMATAN ISOLATED=FORM;ARABIC DATE=SEPARATOR;ARABIC DECIMAL=SEPARATOR;
ARABIC DISPUTED END OF=AYAH;ARABIC DOUBLE RIGHT ARROWHEAD=ABOVE;
ARABIC DOUBLE RIGHT ARROWHEAD ABOVE WITH=DOT;ARABIC DOUBLED=MADDA;ARABIC EMPTY CENTRE HIGH=STOP;
ARABIC EMPTY CENTRE LOW=STOP;ARABIC END OF=AYAH;ARABIC END OF TEXT=MARK;ARABIC FATHA ISOLATED=FORM;
ARABIC FATHA MEDIAL=FORM;ARABIC FATHA WITH=RING;ARABIC FATHA WITH DOT=ABOVE;
ARABIC FATHA WITH TWO=DOTS;ARABIC FATHATAN ISOLATED=FORM;ARABIC FIVE POINTED=STAR;
ARABIC FOOTNOTE=MARKER;ARABIC FULL=STOP;ARABIC HALF MADDA OVER=MADDA;ARABIC HAMZA=ABOVE,BELOW;
ARABIC INVERTED=DAMMA;ARABIC KASRA ISOLATED=FORM;ARABIC KASRA MEDIAL=FORM;
ARABIC KASRA WITH DOT=BELOW;ARABIC KASRATAN ISOLATED=FORM;ARABIC LARGE CIRCLE=BELOW;
ARABIC LARGE ROUND DOT=ABOVE,BELOW;ARABIC LARGE ROUND DOT INSIDE CIRCLE=BELOW;
ARABIC LEFT ARROWHEAD=ABOVE,BELOW;ARABIC LETTER=AE,AIN,ALEF,BEEH,BEH,BEHEH,DAD,DAHAL,DAL,DDAHAL,
DDAL,DUL,DYEH,E,FEH,GAF,GHAIN,GRAF,GUEH,HAH,HAMZA,HEH,JEEM,JEH,KAF,KEHEH,KHAH,LAM,MARK,MEEM,NG,
NGOEH,NOON,NYEH,OE,PEH,PEHEH,QAF,REH,RNOON,RREH,SAD,SEEN,SHEEN,TAH,TCHEH,TCHEHEH,TEH,TEHEH,THAL,
THEH,TTEH,TTEHEH,U,VE,VEH,WAW,YEH,YU,ZAH,ZAIN;ARABIC LETTER AFRICAN=FEH,NOON,QAF;
ARABIC LETTER AFRICAN QAF WITH THREE DOTS=ABOVE;ARABIC LETTER AIN FINAL=FORM;
ARABIC LETTER AIN INITIAL=FORM;ARABIC LETTER AIN ISOLATED=FORM;ARABIC LETTER AIN MEDIAL=FORM;
ARABIC LETTER AIN WITH THREE DOTS=ABOVE,BELOW;
ARABIC LETTER AIN WITH THREE DOTS POINTING DOWNWARDS=ABOVE;ARABIC LETTER AIN WITH TWO DOTS=ABOVE;
ARABIC LETTER AIN WITH TWO DOTS VERTICALLY=ABOVE;ARABIC LETTER ALEF=MAKSURA,WASLA;
ARABIC LETTER ALEF FINAL=FORM;ARABIC LETTER ALEF ISOLATED=FORM;
ARABIC LETTER ALEF MAKSURA FINAL=FORM;ARABIC LETTER ALEF MAKSURA ISOLATED=FORM;
ARABIC LETTER ALEF WASLA FINAL=FORM;ARABIC LETTER ALEF WASLA ISOLATED=FORM;
ARABIC LETTER ALEF WITH ATTACHED=FATHA,KASRA;ARABIC LETTER ALEF WITH ATTACHED BOTTOM RIGHT=KASRA;
ARABIC LETTER ALEF WITH ATTACHED BOTTOM RIGHT KASRA AND DOT=ABOVE;
ARABIC LETTER ALEF WITH ATTACHED BOTTOM RIGHT KASRA AND LEFT=RING;
ARABIC LETTER ALEF WITH ATTACHED LEFT=HAMZA;ARABIC LETTER ALEF WITH ATTACHED LEFT ROUND=DOT;
ARABIC LETTER ALEF WITH ATTACHED RIGHT=HAMZA;ARABIC LETTER ALEF WITH ATTACHED RIGHT ROUND=DOT;
ARABIC LETTER ALEF WITH ATTACHED ROUND DOT=ABOVE,BELOW;
ARABIC LETTER ALEF WITH ATTACHED TOP RIGHT=FATHA;
ARABIC LETTER ALEF WITH ATTACHED TOP RIGHT FATHA AND DOT=ABOVE;
ARABIC LETTER ALEF WITH ATTACHED TOP RIGHT FATHA AND LEFT=RING;ARABIC LETTER ALEF WITH DOT=ABOVE;
ARABIC LETTER ALEF WITH EXTENDED ARABIC-INDIC DIGIT THREE=ABOVE;
ARABIC LETTER ALEF WITH EXTENDED ARABIC-INDIC DIGIT TWO=ABOVE;ARABIC LETTER ALEF WITH HAMZA=ABOVE,
BELOW;ARABIC LETTER ALEF WITH HAMZA ABOVE FINAL=FORM;
ARABIC LETTER ALEF WITH HAMZA ABOVE ISOLATED=FORM;ARABIC LETTER ALEF WITH HAMZA BELOW FINAL=FORM;
ARABIC LETTER ALEF WITH HAMZA BELOW ISOLATED=FORM;ARABIC LETTER ALEF WITH LEFT MIDDLE=STROKE;
ARABIC LETTER ALEF WITH MADDA=ABOVE;ARABIC LETTER ALEF WITH MADDA ABOVE FINAL=FORM;
ARABIC LETTER ALEF WITH MADDA ABOVE ISOLATED=FORM;ARABIC LETTER ALEF WITH RIGHT MIDDLE=STROKE;
ARABIC LETTER ALEF WITH RIGHT MIDDLE STROKE AND DOT=ABOVE;
ARABIC LETTER ALEF WITH RIGHT MIDDLE STROKE AND LEFT=RING;ARABIC LETTER ALEF WITH WAVY HAMZA=ABOVE,
BELOW;ARABIC LETTER BEEH FINAL=FORM;ARABIC LETTER BEEH INITIAL=FORM;
ARABIC LETTER BEEH ISOLATED=FORM;ARABIC LETTER BEEH MEDIAL=FORM;ARABIC LETTER BEH FINAL=FORM;
ARABIC LETTER BEH INITIAL=FORM;ARABIC LETTER BEH ISOLATED=FORM;ARABIC LETTER BEH MEDIAL=FORM;
ARABIC LETTER BEH WITH DOT BELOW AND THREE DOTS=ABOVE;ARABIC LETTER BEH WITH HAMZA=ABOVE;
ARABIC LETTER BEH WITH INVERTED SMALL V=BELOW;ARABIC LETTER BEH WITH SMALL=V;
ARABIC LETTER BEH WITH SMALL MEEM=ABOVE;ARABIC LETTER BEH WITH SMALL V=BELOW;
ARABIC LETTER BEH WITH THREE DOTS HORIZONTALLY=BELOW;
ARABIC LETTER BEH WITH THREE DOTS POINTING UPWARDS=BELOW;
ARABIC LETTER BEH WITH THREE DOTS POINTING UPWARDS BELOW AND TWO DOTS=ABOVE;
ARABIC LETTER BEH WITH TWO DOTS BELOW AND DOT=ABOVE;ARABIC LETTER BEHEH FINAL=FORM;
ARABIC LETTER BEHEH INITIAL=FORM;ARABIC LETTER BEHEH ISOLATED=FORM;ARABIC LETTER BEHEH MEDIAL=FORM;
ARABIC LETTER DAD FINAL=FORM;ARABIC LETTER DAD INITIAL=FORM;ARABIC LETTER DAD ISOLATED=FORM;
ARABIC LETTER DAD MEDIAL=FORM;ARABIC LETTER DAD WITH DOT=BELOW;ARABIC LETTER DAHAL FINAL=FORM;
ARABIC LETTER DAHAL ISOLATED=FORM;ARABIC LETTER DAL FINAL=FORM;ARABIC LETTER DAL ISOLATED=FORM;
ARABIC LETTER DAL WITH=RING;ARABIC LETTER DAL WITH DOT=BELOW;
ARABIC LETTER DAL WITH DOT BELOW AND SMALL=TAH;ARABIC LETTER DAL WITH FOUR DOTS=ABOVE;
ARABIC LETTER DAL WITH INVERTED=V;ARABIC LETTER DAL WITH INVERTED SMALL V=BELOW;
ARABIC LETTER DAL WITH THREE DOTS=BELOW;ARABIC LETTER DAL WITH THREE DOTS ABOVE=DOWNWARDS;
ARABIC LETTER DAL WITH TWO DOTS VERTICALLY BELOW AND SMALL=TAH;ARABIC LETTER DDAHAL FINAL=FORM;
ARABIC LETTER DDAHAL ISOLATED=FORM;ARABIC LETTER DDAL FINAL=FORM;ARABIC LETTER DDAL ISOLATED=FORM;
ARABIC LETTER DOTLESS=BEH,FEH,QAF;ARABIC LETTER DUL FINAL=FORM;ARABIC LETTER DUL ISOLATED=FORM;
ARABIC LETTER DYEH FINAL=FORM;ARABIC LETTER DYEH INITIAL=FORM;ARABIC LETTER DYEH ISOLATED=FORM;
ARABIC LETTER DYEH MEDIAL=FORM;ARABIC LETTER E FINAL=FORM;ARABIC LETTER E INITIAL=FORM;
ARABIC LETTER E ISOLATED=FORM;ARABIC LETTER E MEDIAL=FORM;ARABIC LETTER FARSI=YEH;
ARABIC LETTER FARSI YEH FINAL=FORM;ARABIC LETTER FARSI YEH INITIAL=FORM;
ARABIC LETTER FARSI YEH ISOLATED=FORM;ARABIC LETTER FARSI YEH MEDIAL=FORM;
ARABIC LETTER FARSI YEH WITH EXTENDED ARABIC-INDIC DIGIT FOUR=BELOW;
ARABIC LETTER FARSI YEH WITH EXTENDED ARABIC-INDIC DIGIT THREE=ABOVE;
ARABIC LETTER FARSI YEH WITH EXTENDED ARABIC-INDIC DIGIT TWO=ABOVE;
ARABIC LETTER FARSI YEH WITH INVERTED=V;ARABIC LETTER FARSI YEH WITH THREE DOTS=ABOVE;
ARABIC LETTER FARSI YEH WITH TWO DOTS=ABOVE;ARABIC LETTER FEH FINAL=FORM;
ARABIC LETTER FEH INITIAL=FORM;ARABIC LETTER FEH ISOLATED=FORM;ARABIC LETTER FEH MEDIAL=FORM;
ARABIC LETTER FEH WITH DOT=BELOW;ARABIC LETTER FEH WITH DOT BELOW AND THREE DOTS=ABOVE;
ARABIC LETTER FEH WITH DOT MOVED=BELOW;ARABIC LETTER FEH WITH THREE DOTS=BELOW;
ARABIC LETTER FEH WITH THREE DOTS POINTING UPWARDS=BELOW;ARABIC LETTER FEH WITH TWO DOTS=BELOW;
ARABIC LETTER GAF FINAL=FORM;ARABIC LETTER GAF INITIAL=FORM;ARABIC LETTER GAF ISOLATED=FORM;
ARABIC LETTER GAF MEDIAL=FORM;ARABIC LETTER GAF WITH=RING;ARABIC LETTER GAF WITH INVERTED=STROKE;
ARABIC LETTER GAF WITH THREE DOTS=ABOVE;ARABIC LETTER GAF WITH TWO DOTS=BELOW;
ARABIC LETTER GHAIN FINAL=FORM;ARABIC LETTER GHAIN INITIAL=FORM;ARABIC LETTER GHAIN ISOLATED=FORM;
ARABIC LETTER GHAIN MEDIAL=FORM;ARABIC LETTER GHAIN WITH DOT=BELOW;
ARABIC LETTER GHAIN WITH THREE DOTS=ABOVE;ARABIC LETTER GUEH FINAL=FORM;
ARABIC LETTER GUEH INITIAL=FORM;ARABIC LETTER GUEH ISOLATED=FORM;ARABIC LETTER GUEH MEDIAL=FORM;
ARABIC LETTER HAH FINAL=FORM;ARABIC LETTER HAH INITIAL=FORM;ARABIC LETTER HAH ISOLATED=FORM;
ARABIC LETTER HAH MEDIAL=FORM;ARABIC LETTER HAH WITH EXTENDED ARABIC-INDIC DIGIT FOUR=BELOW;
ARABIC LETTER HAH WITH HAMZA=ABOVE;ARABIC LETTER HAH WITH INVERTED SMALL V=BELOW;
ARABIC LETTER HAH WITH SMALL ARABIC LETTER TAH=ABOVE,BELOW;
ARABIC LETTER HAH WITH SMALL ARABIC LETTER TAH AND TWO=DOTS;
ARABIC LETTER HAH WITH THREE DOTS=ABOVE;ARABIC LETTER HAH WITH THREE DOTS POINTING UPWARDS=BELOW;
ARABIC LETTER HAH WITH TWO DOTS=ABOVE;ARABIC LETTER HAH WITH TWO DOTS VERTICAL=ABOVE;
ARABIC LETTER HAMZA ISOLATED=FORM;ARABIC LETTER HEH=DOACHASHMEE,GOAL;
ARABIC LETTER HEH DOACHASHMEE FINAL=FORM;ARABIC LETTER HEH DOACHASHMEE INITIAL=FORM;
ARABIC LETTER HEH DOACHASHMEE ISOLATED=FORM;ARABIC LETTER HEH DOACHASHMEE MEDIAL=FORM;
ARABIC LETTER HEH FINAL=FORM;ARABIC LETTER HEH GOAL FINAL=FORM;ARABIC LETTER HEH GOAL INITIAL=FORM;
ARABIC LETTER HEH GOAL ISOLATED=FORM;ARABIC LETTER HEH GOAL MEDIAL=FORM;
ARABIC LETTER HEH GOAL WITH HAMZA=ABOVE;ARABIC LETTER HEH INITIAL=FORM;
ARABIC LETTER HEH ISOLATED=FORM;ARABIC LETTER HEH MEDIAL=FORM;ARABIC LETTER HEH WITH INVERTED=V;
ARABIC LETTER HEH WITH YEH=ABOVE;ARABIC LETTER HEH WITH YEH ABOVE FINAL=FORM;
ARABIC LETTER HEH WITH YEH ABOVE ISOLATED=FORM;ARABIC LETTER HIGH=HAMZA;
ARABIC LETTER HIGH HAMZA=ALEF,WAW,YEH;ARABIC LETTER JEEM FINAL=FORM;
ARABIC LETTER JEEM INITIAL=FORM;ARABIC LETTER JEEM ISOLATED=FORM;ARABIC LETTER JEEM MEDIAL=FORM;
ARABIC LETTER JEEM WITH THREE DOTS=ABOVE,BELOW;ARABIC LETTER JEEM WITH TWO DOTS=ABOVE;
ARABIC LETTER JEH FINAL=FORM;ARABIC LETTER JEH ISOLATED=FORM;ARABIC LETTER KAF FINAL=FORM;
ARABIC LETTER KAF INITIAL=FORM;ARABIC LETTER KAF ISOLATED=FORM;ARABIC LETTER KAF MEDIAL=FORM;
ARABIC LETTER KAF WITH=RING;ARABIC LETTER KAF WITH DOT=ABOVE,BELOW;
ARABIC LETTER KAF WITH THREE DOTS=BELOW;ARABIC LETTER KAF WITH TWO DOTS=ABOVE;
ARABIC LETTER KASHMIRI=YEH;ARABIC LETTER KEHEH FINAL=FORM;ARABIC LETTER KEHEH INITIAL=FORM;
ARABIC LETTER KEHEH ISOLATED=FORM;ARABIC LETTER KEHEH MEDIAL=FORM;
ARABIC LETTER KEHEH WITH DOT=ABOVE;ARABIC LETTER KEHEH WITH SMALL=V;
ARABIC LETTER KEHEH WITH THREE DOTS=ABOVE,BELOW;
ARABIC LETTER KEHEH WITH THREE DOTS POINTING UPWARDS=BELOW;ARABIC LETTER KEHEH WITH TWO DOTS=ABOVE;
ARABIC LETTER KEHEH WITH TWO DOTS VERTICALLY=BELOW;ARABIC LETTER KHAH FINAL=FORM;
ARABIC LETTER KHAH INITIAL=FORM;ARABIC LETTER KHAH ISOLATED=FORM;ARABIC LETTER KHAH MEDIAL=FORM;
ARABIC LETTER KIRGHIZ=OE,YU;ARABIC LETTER KIRGHIZ OE FINAL=FORM;
ARABIC LETTER KIRGHIZ OE ISOLATED=FORM;ARABIC LETTER KIRGHIZ YU FINAL=FORM;
ARABIC LETTER KIRGHIZ YU ISOLATED=FORM;ARABIC LETTER LAM FINAL=FORM;ARABIC LETTER LAM INITIAL=FORM;
ARABIC LETTER LAM ISOLATED=FORM;ARABIC LETTER LAM MEDIAL=FORM;ARABIC LETTER LAM WITH=BAR;
ARABIC LETTER LAM WITH DOT=ABOVE;ARABIC LETTER LAM WITH DOUBLE=BAR;ARABIC LETTER LAM WITH SMALL=V;
ARABIC LETTER LAM WITH SMALL ARABIC LETTER TAH=ABOVE;ARABIC LETTER LAM WITH THREE DOTS=ABOVE,BELOW;
ARABIC LETTER LOW=ALEF;ARABIC LETTER MEEM FINAL=FORM;ARABIC LETTER MEEM INITIAL=FORM;
ARABIC LETTER MEEM ISOLATED=FORM;ARABIC LETTER MEEM MEDIAL=FORM;ARABIC LETTER MEEM WITH DOT=ABOVE,
BELOW;ARABIC LETTER MEEM WITH THREE DOTS=ABOVE;ARABIC LETTER NG FINAL=FORM;
ARABIC LETTER NG INITIAL=FORM;ARABIC LETTER NG ISOLATED=FORM;ARABIC LETTER NG MEDIAL=FORM;
ARABIC LETTER NGOEH FINAL=FORM;ARABIC LETTER NGOEH INITIAL=FORM;ARABIC LETTER NGOEH ISOLATED=FORM;
ARABIC LETTER NGOEH MEDIAL=FORM;ARABIC LETTER NOON=GHUNNA;ARABIC LETTER NOON FINAL=FORM;
ARABIC LETTER NOON GHUNNA FINAL=FORM;ARABIC LETTER NOON GHUNNA ISOLATED=FORM;
ARABIC LETTER NOON INITIAL=FORM;ARABIC LETTER NOON ISOLATED=FORM;ARABIC LETTER NOON MEDIAL=FORM;
ARABIC LETTER NOON WITH=RING;ARABIC LETTER NOON WITH DOT=BELOW;
ARABIC LETTER NOON WITH INVERTED SMALL=V;ARABIC LETTER NOON WITH SMALL=TAH,V;
ARABIC LETTER NOON WITH THREE DOTS=ABOVE;ARABIC LETTER NOON WITH TWO DOTS=BELOW;
ARABIC LETTER NYEH FINAL=FORM;ARABIC LETTER NYEH INITIAL=FORM;ARABIC LETTER NYEH ISOLATED=FORM;
ARABIC LETTER NYEH MEDIAL=FORM;ARABIC LETTER OE FINAL=FORM;ARABIC LETTER OE ISOLATED=FORM;
ARABIC LETTER PEH FINAL=FORM;ARABIC LETTER PEH INITIAL=FORM;ARABIC LETTER PEH ISOLATED=FORM;
ARABIC LETTER PEH MEDIAL=FORM;ARABIC LETTER PEH WITH SMALL=V;
ARABIC LETTER PEH WITH SMALL MEEM=ABOVE;ARABIC LETTER PEHEH FINAL=FORM;
ARABIC LETTER PEHEH INITIAL=FORM;ARABIC LETTER PEHEH ISOLATED=FORM;ARABIC LETTER PEHEH MEDIAL=FORM;
ARABIC LETTER QAF FINAL=FORM;ARABIC LETTER QAF INITIAL=FORM;ARABIC LETTER QAF ISOLATED=FORM;
ARABIC LETTER QAF MEDIAL=FORM;ARABIC LETTER QAF WITH DOT=ABOVE,BELOW;
ARABIC LETTER QAF WITH DOT BELOW AND NO DOTS=ABOVE;ARABIC LETTER QAF WITH THREE DOTS=ABOVE;
ARABIC LETTER REH FINAL=FORM;ARABIC LETTER REH ISOLATED=FORM;ARABIC LETTER REH WITH=LOOP,RING,
STROKE;ARABIC LETTER REH WITH DOT=BELOW;ARABIC LETTER REH WITH DOT BELOW AND DOT=ABOVE;
ARABIC LETTER REH WITH FOUR DOTS=ABOVE;ARABIC LETTER REH WITH HAMZA=ABOVE;
ARABIC LETTER REH WITH INVERTED=V;ARABIC LETTER REH WITH SMALL=V;
ARABIC LETTER REH WITH SMALL ARABIC LETTER TAH AND TWO=DOTS;
ARABIC LETTER REH WITH SMALL NOON=ABOVE;ARABIC LETTER REH WITH SMALL V=BELOW;
ARABIC LETTER REH WITH TWO DOTS=ABOVE;ARABIC LETTER REH WITH TWO DOTS VERTICALLY=ABOVE;
ARABIC LETTER RNOON FINAL=FORM;ARABIC LETTER RNOON INITIAL=FORM;ARABIC LETTER RNOON ISOLATED=FORM;
ARABIC LETTER RNOON MEDIAL=FORM;ARABIC LETTER ROHINGYA=YEH;ARABIC LETTER RREH FINAL=FORM;
ARABIC LETTER RREH ISOLATED=FORM;ARABIC LETTER SAD FINAL=FORM;ARABIC LETTER SAD INITIAL=FORM;
ARABIC LETTER SAD ISOLATED=FORM;ARABIC LETTER SAD MEDIAL=FORM;
ARABIC LETTER SAD WITH THREE DOTS=ABOVE,BELOW;ARABIC LETTER SAD WITH TWO DOTS=BELOW;
ARABIC LETTER SEEN FINAL=FORM;ARABIC LETTER SEEN INITIAL=FORM;ARABIC LETTER SEEN ISOLATED=FORM;
ARABIC LETTER SEEN MEDIAL=FORM;ARABIC LETTER SEEN WITH DOT BELOW AND DOT=ABOVE;
ARABIC LETTER SEEN WITH EXTENDED ARABIC-INDIC DIGIT FOUR=ABOVE;
ARABIC LETTER SEEN WITH FOUR DOTS=ABOVE;ARABIC LETTER SEEN WITH INVERTED=V;
ARABIC LETTER SEEN WITH SMALL ARABIC LETTER TAH AND TWO=DOTS;
ARABIC LETTER SEEN WITH THREE DOTS=BELOW;
ARABIC LETTER SEEN WITH THREE DOTS BELOW AND THREE DOTS=ABOVE;
ARABIC LETTER SEEN WITH TWO DOTS VERTICALLY=ABOVE;ARABIC LETTER SHEEN FINAL=FORM;
ARABIC LETTER SHEEN INITIAL=FORM;ARABIC LETTER SHEEN ISOLATED=FORM;ARABIC LETTER SHEEN MEDIAL=FORM;
ARABIC LETTER SHEEN WITH DOT=BELOW;ARABIC LETTER STRAIGHT=WAW;ARABIC LETTER SUPERSCRIPT=ALEF;
ARABIC LETTER SWASH=KAF;ARABIC LETTER TAH FINAL=FORM;ARABIC LETTER TAH INITIAL=FORM;
ARABIC LETTER TAH ISOLATED=FORM;ARABIC LETTER TAH MEDIAL=FORM;ARABIC LETTER TAH WITH DOT=BELOW;
ARABIC LETTER TAH WITH THREE DOTS=ABOVE,BELOW;ARABIC LETTER TAH WITH TWO DOTS=ABOVE;
ARABIC LETTER TCHEH FINAL=FORM;ARABIC LETTER TCHEH INITIAL=FORM;ARABIC LETTER TCHEH ISOLATED=FORM;
ARABIC LETTER TCHEH MEDIAL=FORM;ARABIC LETTER TCHEH WITH DOT=ABOVE;
ARABIC LETTER TCHEH WITH SMALL=V;ARABIC LETTER TCHEHEH FINAL=FORM;
ARABIC LETTER TCHEHEH INITIAL=FORM;ARABIC LETTER TCHEHEH ISOLATED=FORM;
ARABIC LETTER TCHEHEH MEDIAL=FORM;ARABIC LETTER TEH=MARBUTA;ARABIC LETTER TEH FINAL=FORM;
ARABIC LETTER TEH INITIAL=FORM;ARABIC LETTER TEH ISOLATED=FORM;ARABIC LETTER TEH MARBUTA=GOAL;
ARABIC LETTER TEH MARBUTA FINAL=FORM;ARABIC LETTER TEH MARBUTA ISOLATED=FORM;
ARABIC LETTER TEH MEDIAL=FORM;ARABIC LETTER TEH WITH=RING;ARABIC LETTER TEH WITH SMALL=V;
ARABIC LETTER TEH WITH SMALL TEH=ABOVE;ARABIC LETTER TEH WITH THREE DOTS ABOVE=DOWNWARDS;
ARABIC LETTER TEHEH FINAL=FORM;ARABIC LETTER TEHEH INITIAL=FORM;ARABIC LETTER TEHEH ISOLATED=FORM;
ARABIC LETTER TEHEH MEDIAL=FORM;ARABIC LETTER THAL FINAL=FORM;ARABIC LETTER THAL ISOLATED=FORM;
ARABIC LETTER THEH FINAL=FORM;ARABIC LETTER THEH INITIAL=FORM;ARABIC LETTER THEH ISOLATED=FORM;
ARABIC LETTER THEH MEDIAL=FORM;ARABIC LETTER THIN=YEH;ARABIC LETTER TTEH FINAL=FORM;
ARABIC LETTER TTEH INITIAL=FORM;ARABIC LETTER TTEH ISOLATED=FORM;ARABIC LETTER TTEH MEDIAL=FORM;
ARABIC LETTER TTEH WITH SMALL=V;ARABIC LETTER TTEHEH FINAL=FORM;ARABIC LETTER TTEHEH INITIAL=FORM;
ARABIC LETTER TTEHEH ISOLATED=FORM;ARABIC LETTER TTEHEH MEDIAL=FORM;ARABIC LETTER U FINAL=FORM;
ARABIC LETTER U ISOLATED=FORM;ARABIC LETTER U WITH HAMZA=ABOVE;
ARABIC LETTER U WITH HAMZA ABOVE ISOLATED=FORM;
ARABIC LETTER UIGHUR KAZAKH KIRGHIZ ALEF MAKSURA INITIAL=FORM;
ARABIC LETTER UIGHUR KAZAKH KIRGHIZ ALEF MAKSURA MEDIAL=FORM;ARABIC LETTER VE FINAL=FORM;
ARABIC LETTER VE ISOLATED=FORM;ARABIC LETTER VEH FINAL=FORM;ARABIC LETTER VEH INITIAL=FORM;
ARABIC LETTER VEH ISOLATED=FORM;ARABIC LETTER VEH MEDIAL=FORM;ARABIC LETTER WAW FINAL=FORM;
ARABIC LETTER WAW ISOLATED=FORM;ARABIC LETTER WAW WITH=RING;ARABIC LETTER WAW WITH DOT=ABOVE,
WITHIN;ARABIC LETTER WAW WITH EXTENDED ARABIC-INDIC DIGIT THREE=ABOVE;
ARABIC LETTER WAW WITH EXTENDED ARABIC-INDIC DIGIT TWO=ABOVE;ARABIC LETTER WAW WITH HAMZA=ABOVE;
ARABIC LETTER WAW WITH HAMZA ABOVE FINAL=FORM;ARABIC LETTER WAW WITH HAMZA ABOVE ISOLATED=FORM;
ARABIC LETTER WAW WITH TWO DOTS=ABOVE;ARABIC LETTER YEH=BARREE;ARABIC LETTER YEH BARREE FINAL=FORM;
ARABIC LETTER YEH BARREE ISOLATED=FORM;
ARABIC LETTER YEH BARREE WITH EXTENDED ARABIC-INDIC DIGIT THREE=ABOVE;
ARABIC LETTER YEH BARREE WITH EXTENDED ARABIC-INDIC DIGIT TWO=ABOVE;
ARABIC LETTER YEH BARREE WITH HAMZA=ABOVE;ARABIC LETTER YEH BARREE WITH HAMZA ABOVE FINAL=FORM;
ARABIC LETTER YEH BARREE WITH HAMZA ABOVE ISOLATED=FORM;ARABIC LETTER YEH FINAL=FORM;
ARABIC LETTER YEH INITIAL=FORM;ARABIC LETTER YEH ISOLATED=FORM;ARABIC LETTER YEH MEDIAL=FORM;
ARABIC LETTER YEH WITH=TAIL;ARABIC LETTER YEH WITH HAMZA=ABOVE;
ARABIC LETTER YEH WITH HAMZA ABOVE FINAL=FORM;ARABIC LETTER YEH WITH HAMZA ABOVE INITIAL=FORM;
ARABIC LETTER YEH WITH HAMZA ABOVE ISOLATED=FORM;ARABIC LETTER YEH WITH HAMZA ABOVE MEDIAL=FORM;
ARABIC LETTER YEH WITH SMALL=V;ARABIC LETTER YEH WITH THREE DOTS=BELOW;
ARABIC LETTER YEH WITH TWO DOTS BELOW AND DOT=ABOVE;
ARABIC LETTER YEH WITH TWO DOTS BELOW AND HAMZA=ABOVE;
ARABIC LETTER YEH WITH TWO DOTS BELOW AND SMALL NOON=ABOVE;ARABIC LETTER YU FINAL=FORM;
ARABIC LETTER YU ISOLATED=FORM;ARABIC LETTER ZAH FINAL=FORM;ARABIC LETTER ZAH INITIAL=FORM;
ARABIC LETTER ZAH ISOLATED=FORM;ARABIC LETTER ZAH MEDIAL=FORM;ARABIC LETTER ZAIN FINAL=FORM;
ARABIC LETTER ZAIN ISOLATED=FORM;ARABIC LETTER ZAIN WITH INVERTED V=ABOVE;
ARABIC LIGATURE=JALLAJALALOUHOU;ARABIC LIGATURE AIN WITH ALEF MAKSURA FINAL=FORM;
ARABIC LIGATURE AIN WITH ALEF MAKSURA ISOLATED=FORM;ARABIC LIGATURE AIN WITH JEEM INITIAL=FORM;
ARABIC LIGATURE AIN WITH JEEM ISOLATED=FORM;ARABIC LIGATURE AIN WITH JEEM WITH MEEM FINAL=FORM;
ARABIC LIGATURE AIN WITH JEEM WITH MEEM INITIAL=FORM;ARABIC LIGATURE AIN WITH MEEM INITIAL=FORM;
ARABIC LIGATURE AIN WITH MEEM ISOLATED=FORM;
ARABIC LIGATURE AIN WITH MEEM WITH ALEF MAKSURA FINAL=FORM;
ARABIC LIGATURE AIN WITH MEEM WITH MEEM FINAL=FORM;
ARABIC LIGATURE AIN WITH MEEM WITH MEEM INITIAL=FORM;
ARABIC LIGATURE AIN WITH MEEM WITH YEH FINAL=FORM;ARABIC LIGATURE AIN WITH YEH FINAL=FORM;
ARABIC LIGATURE AIN WITH YEH ISOLATED=FORM;ARABIC LIGATURE AKBAR ISOLATED=FORM;
ARABIC LIGATURE ALAYHAA=AS-SALAAM;ARABIC LIGATURE ALAYHE ISOLATED=FORM;
ARABIC LIGATURE ALAYHI=AS-SALAAM;ARABIC LIGATURE ALAYHI AS-SALAATU=WAS-SALAAM;
ARABIC LIGATURE ALAYHIM=AS-SALAAM;ARABIC LIGATURE ALAYHIMAA=AS-SALAAM;
ARABIC LIGATURE ALEF MAKSURA WITH SUPERSCRIPT ALEF FINAL=FORM;
ARABIC LIGATURE ALEF MAKSURA WITH SUPERSCRIPT ALEF ISOLATED=FORM;
ARABIC LIGATURE ALEF WITH FATHATAN FINAL=FORM;ARABIC LIGATURE ALEF WITH FATHATAN ISOLATED=FORM;
ARABIC LIGATURE ALLAH ISOLATED=FORM;ARABIC LIGATURE AZZA WA=JALL;
ARABIC LIGATURE BEH WITH ALEF MAKSURA FINAL=FORM;
ARABIC LIGATURE BEH WITH ALEF MAKSURA ISOLATED=FORM;ARABIC LIGATURE BEH WITH HAH INITIAL=FORM;
ARABIC LIGATURE BEH WITH HAH ISOLATED=FORM;ARABIC LIGATURE BEH WITH HAH WITH YEH FINAL=FORM;
ARABIC LIGATURE BEH WITH HEH INITIAL=FORM;ARABIC LIGATURE BEH WITH HEH MEDIAL=FORM;
ARABIC LIGATURE BEH WITH JEEM INITIAL=FORM;ARABIC LIGATURE BEH WITH JEEM ISOLATED=FORM;
ARABIC LIGATURE BEH WITH KHAH INITIAL=FORM;ARABIC LIGATURE BEH WITH KHAH ISOLATED=FORM;
ARABIC LIGATURE BEH WITH KHAH WITH YEH FINAL=FORM;ARABIC LIGATURE BEH WITH MEEM FINAL=FORM;
ARABIC LIGATURE BEH WITH MEEM INITIAL=FORM;ARABIC LIGATURE BEH WITH MEEM ISOLATED=FORM;
ARABIC LIGATURE BEH WITH MEEM MEDIAL=FORM;ARABIC LIGATURE BEH WITH NOON FINAL=FORM;
ARABIC LIGATURE BEH WITH REH FINAL=FORM;ARABIC LIGATURE BEH WITH YEH FINAL=FORM;
ARABIC LIGATURE BEH WITH YEH ISOLATED=FORM;ARABIC LIGATURE BEH WITH ZAIN FINAL=FORM;
ARABIC LIGATURE BISMILLAH AR-RAHMAN=AR-RAHEEM;ARABIC LIGATURE DAD WITH ALEF MAKSURA FINAL=FORM;
ARABIC LIGATURE DAD WITH ALEF MAKSURA ISOLATED=FORM;ARABIC LIGATURE DAD WITH HAH INITIAL=FORM;
ARABIC LIGATURE DAD WITH HAH ISOLATED=FORM;
ARABIC LIGATURE DAD WITH HAH WITH ALEF MAKSURA FINAL=FORM;
ARABIC LIGATURE DAD WITH HAH WITH YEH FINAL=FORM;ARABIC LIGATURE DAD WITH JEEM INITIAL=FORM;
ARABIC LIGATURE DAD WITH JEEM ISOLATED=FORM;ARABIC LIGATURE DAD WITH KHAH INITIAL=FORM;
ARABIC LIGATURE DAD WITH KHAH ISOLATED=FORM;ARABIC LIGATURE DAD WITH KHAH WITH MEEM FINAL=FORM;
ARABIC LIGATURE DAD WITH KHAH WITH MEEM INITIAL=FORM;ARABIC LIGATURE DAD WITH MEEM INITIAL=FORM;
ARABIC LIGATURE DAD WITH MEEM ISOLATED=FORM;ARABIC LIGATURE DAD WITH REH FINAL=FORM;
ARABIC LIGATURE DAD WITH REH ISOLATED=FORM;ARABIC LIGATURE DAD WITH YEH FINAL=FORM;
ARABIC LIGATURE DAD WITH YEH ISOLATED=FORM;ARABIC LIGATURE FEH WITH ALEF MAKSURA FINAL=FORM;
ARABIC LIGATURE FEH WITH ALEF MAKSURA ISOLATED=FORM;ARABIC LIGATURE FEH WITH HAH INITIAL=FORM;
ARABIC LIGATURE FEH WITH HAH ISOLATED=FORM;ARABIC LIGATURE FEH WITH JEEM INITIAL=FORM;
ARABIC LIGATURE FEH WITH JEEM ISOLATED=FORM;ARABIC LIGATURE FEH WITH KHAH INITIAL=FORM;
ARABIC LIGATURE FEH WITH KHAH ISOLATED=FORM;ARABIC LIGATURE FEH WITH KHAH WITH MEEM FINAL=FORM;
ARABIC LIGATURE FEH WITH KHAH WITH MEEM INITIAL=FORM;ARABIC LIGATURE FEH WITH MEEM INITIAL=FORM;
ARABIC LIGATURE FEH WITH MEEM ISOLATED=FORM;ARABIC LIGATURE FEH WITH MEEM WITH YEH FINAL=FORM;
ARABIC LIGATURE FEH WITH YEH FINAL=FORM;ARABIC LIGATURE FEH WITH YEH ISOLATED=FORM;
ARABIC LIGATURE GHAIN WITH ALEF MAKSURA FINAL=FORM;
ARABIC LIGATURE GHAIN WITH ALEF MAKSURA ISOLATED=FORM;ARABIC LIGATURE GHAIN WITH JEEM INITIAL=FORM;
ARABIC LIGATURE GHAIN WITH JEEM ISOLATED=FORM;ARABIC LIGATURE GHAIN WITH MEEM INITIAL=FORM;
ARABIC LIGATURE GHAIN WITH MEEM ISOLATED=FORM;
ARABIC LIGATURE GHAIN WITH MEEM WITH ALEF MAKSURA FINAL=FORM;
ARABIC LIGATURE GHAIN WITH MEEM WITH MEEM FINAL=FORM;
ARABIC LIGATURE GHAIN WITH MEEM WITH YEH FINAL=FORM;ARABIC LIGATURE GHAIN WITH YEH FINAL=FORM;
ARABIC LIGATURE GHAIN WITH YEH ISOLATED=FORM;ARABIC LIGATURE HAH WITH ALEF MAKSURA FINAL=FORM;
ARABIC LIGATURE HAH WITH ALEF MAKSURA ISOLATED=FORM;ARABIC LIGATURE HAH WITH JEEM INITIAL=FORM;
ARABIC LIGATURE HAH WITH JEEM ISOLATED=FORM;ARABIC LIGATURE HAH WITH JEEM WITH YEH FINAL=FORM;
ARABIC LIGATURE HAH WITH MEEM INITIAL=FORM;ARABIC LIGATURE HAH WITH MEEM ISOLATED=FORM;
ARABIC LIGATURE HAH WITH MEEM WITH ALEF MAKSURA FINAL=FORM;
ARABIC LIGATURE HAH WITH MEEM WITH YEH FINAL=FORM;ARABIC LIGATURE HAH WITH YEH FINAL=FORM;
ARABIC LIGATURE HAH WITH YEH ISOLATED=FORM;ARABIC LIGATURE HEH WITH ALEF MAKSURA ISOLATED=FORM;
ARABIC LIGATURE HEH WITH JEEM INITIAL=FORM;ARABIC LIGATURE HEH WITH JEEM ISOLATED=FORM;
ARABIC LIGATURE HEH WITH MEEM INITIAL=FORM;ARABIC LIGATURE HEH WITH MEEM ISOLATED=FORM;
ARABIC LIGATURE HEH WITH MEEM WITH JEEM INITIAL=FORM;
ARABIC LIGATURE HEH WITH MEEM WITH MEEM INITIAL=FORM;
ARABIC LIGATURE HEH WITH SUPERSCRIPT ALEF INITIAL=FORM;ARABIC LIGATURE HEH WITH YEH ISOLATED=FORM;
ARABIC LIGATURE JEEM WITH ALEF MAKSURA FINAL=FORM;
ARABIC LIGATURE JEEM WITH ALEF MAKSURA ISOLATED=FORM;ARABIC LIGATURE JEEM WITH HAH INITIAL=FORM;
ARABIC LIGATURE JEEM WITH HAH ISOLATED=FORM;
ARABIC LIGATURE JEEM WITH HAH WITH ALEF MAKSURA FINAL=FORM;
ARABIC LIGATURE JEEM WITH HAH WITH YEH FINAL=FORM;ARABIC LIGATURE JEEM WITH MEEM INITIAL=FORM;
ARABIC LIGATURE JEEM WITH MEEM ISOLATED=FORM;
ARABIC LIGATURE JEEM WITH MEEM WITH ALEF MAKSURA FINAL=FORM;
ARABIC LIGATURE JEEM WITH MEEM WITH HAH FINAL=FORM;
ARABIC LIGATURE JEEM WITH MEEM WITH HAH INITIAL=FORM;
ARABIC LIGATURE JEEM WITH MEEM WITH YEH FINAL=FORM;ARABIC LIGATURE JEEM WITH YEH FINAL=FORM;
ARABIC LIGATURE JEEM WITH YEH ISOLATED=FORM;ARABIC LIGATURE KAF WITH ALEF FINAL=FORM;
ARABIC LIGATURE KAF WITH ALEF ISOLATED=FORM;ARABIC LIGATURE KAF WITH ALEF MAKSURA FINAL=FORM;
ARABIC LIGATURE KAF WITH ALEF MAKSURA ISOLATED=FORM;ARABIC LIGATURE KAF WITH HAH INITIAL=FORM;
ARABIC LIGATURE KAF WITH HAH ISOLATED=FORM;ARABIC LIGATURE KAF WITH JEEM INITIAL=FORM;
ARABIC LIGATURE KAF WITH JEEM ISOLATED=FORM;ARABIC LIGATURE KAF WITH KHAH INITIAL=FORM;
ARABIC LIGATURE KAF WITH KHAH ISOLATED=FORM;ARABIC LIGATURE KAF WITH LAM FINAL=FORM;
ARABIC LIGATURE KAF WITH LAM INITIAL=FORM;ARABIC LIGATURE KAF WITH LAM ISOLATED=FORM;
ARABIC LIGATURE KAF WITH LAM MEDIAL=FORM;ARABIC LIGATURE KAF WITH MEEM FINAL=FORM;
ARABIC LIGATURE KAF WITH MEEM INITIAL=FORM;ARABIC LIGATURE KAF WITH MEEM ISOLATED=FORM;
ARABIC LIGATURE KAF WITH MEEM MEDIAL=FORM;ARABIC LIGATURE KAF WITH MEEM WITH MEEM FINAL=FORM;
ARABIC LIGATURE KAF WITH MEEM WITH MEEM INITIAL=FORM;
ARABIC LIGATURE KAF WITH MEEM WITH YEH FINAL=FORM;ARABIC LIGATURE KAF WITH YEH FINAL=FORM;
ARABIC LIGATURE KAF WITH YEH ISOLATED=FORM;ARABIC LIGATURE KHAH WITH ALEF MAKSURA FINAL=FORM;
ARABIC LIGATURE KHAH WITH ALEF MAKSURA ISOLATED=FORM;ARABIC LIGATURE KHAH WITH HAH ISOLATED=FORM;
ARABIC LIGATURE KHAH WITH JEEM INITIAL=FORM;ARABIC LIGATURE KHAH WITH JEEM ISOLATED=FORM;
ARABIC LIGATURE KHAH WITH MEEM INITIAL=FORM;ARABIC LIGATURE KHAH WITH MEEM ISOLATED=FORM;
ARABIC LIGATURE KHAH WITH YEH FINAL=FORM;ARABIC LIGATURE KHAH WITH YEH ISOLATED=FORM;
ARABIC LIGATURE LAM WITH ALEF FINAL=FORM;ARABIC LIGATURE LAM WITH ALEF ISOLATED=FORM;
ARABIC LIGATURE LAM WITH ALEF MAKSURA FINAL=FORM;
ARABIC LIGATURE LAM WITH ALEF MAKSURA ISOLATED=FORM;
ARABIC LIGATURE LAM WITH ALEF WITH HAMZA ABOVE FINAL=FORM;
ARABIC LIGATURE LAM WITH ALEF WITH HAMZA ABOVE ISOLATED=FORM;
ARABIC LIGATURE LAM WITH ALEF WITH HAMZA BELOW FINAL=FORM;
ARABIC LIGATURE LAM WITH ALEF WITH HAMZA BELOW ISOLATED=FORM;
ARABIC LIGATURE LAM WITH ALEF WITH MADDA ABOVE FINAL=FORM;
ARABIC LIGATURE LAM WITH ALEF WITH MADDA ABOVE ISOLATED=FORM;
ARABIC LIGATURE LAM WITH HAH INITIAL=FORM;ARABIC LIGATURE LAM WITH HAH ISOLATED=FORM;
ARABIC LIGATURE LAM WITH HAH WITH ALEF MAKSURA FINAL=FORM;
ARABIC LIGATURE LAM WITH HAH WITH MEEM FINAL=FORM;
ARABIC LIGATURE LAM WITH HAH WITH MEEM INITIAL=FORM;
ARABIC LIGATURE LAM WITH HAH WITH YEH FINAL=FORM;ARABIC LIGATURE LAM WITH HEH INITIAL=FORM;
ARABIC LIGATURE LAM WITH JEEM INITIAL=FORM;ARABIC LIGATURE LAM WITH JEEM ISOLATED=FORM;
ARABIC LIGATURE LAM WITH JEEM WITH JEEM FINAL=FORM;
ARABIC LIGATURE LAM WITH JEEM WITH JEEM INITIAL=FORM;
ARABIC LIGATURE LAM WITH JEEM WITH MEEM FINAL=FORM;
ARABIC LIGATURE LAM WITH JEEM WITH MEEM INITIAL=FORM;
ARABIC LIGATURE LAM WITH JEEM WITH YEH FINAL=FORM;ARABIC LIGATURE LAM WITH KHAH INITIAL=FORM;
ARABIC LIGATURE LAM WITH KHAH ISOLATED=FORM;ARABIC LIGATURE LAM WITH KHAH WITH MEEM FINAL=FORM;
ARABIC LIGATURE LAM WITH KHAH WITH MEEM INITIAL=FORM;ARABIC LIGATURE LAM WITH MEEM FINAL=FORM;
ARABIC LIGATURE LAM WITH MEEM INITIAL=FORM;ARABIC LIGATURE LAM WITH MEEM ISOLATED=FORM;
ARABIC LIGATURE LAM WITH MEEM MEDIAL=FORM;ARABIC LIGATURE LAM WITH MEEM WITH HAH FINAL=FORM;
ARABIC LIGATURE LAM WITH MEEM WITH HAH INITIAL=FORM;
ARABIC LIGATURE LAM WITH MEEM WITH YEH FINAL=FORM;ARABIC LIGATURE LAM WITH YEH FINAL=FORM;
ARABIC LIGATURE LAM WITH YEH ISOLATED=FORM;ARABIC LIGATURE MEEM WITH ALEF FINAL=FORM;
ARABIC LIGATURE MEEM WITH ALEF MAKSURA ISOLATED=FORM;ARABIC LIGATURE MEEM WITH HAH INITIAL=FORM;
ARABIC LIGATURE MEEM WITH HAH ISOLATED=FORM;ARABIC LIGATURE MEEM WITH HAH WITH JEEM INITIAL=FORM;
ARABIC LIGATURE MEEM WITH HAH WITH MEEM INITIAL=FORM;
ARABIC LIGATURE MEEM WITH HAH WITH YEH FINAL=FORM;ARABIC LIGATURE MEEM WITH JEEM INITIAL=FORM;
ARABIC LIGATURE MEEM WITH JEEM ISOLATED=FORM;ARABIC LIGATURE MEEM WITH JEEM WITH HAH INITIAL=FORM;
ARABIC LIGATURE MEEM WITH JEEM WITH KHAH INITIAL=FORM;
ARABIC LIGATURE MEEM WITH JEEM WITH MEEM INITIAL=FORM;
ARABIC LIGATURE MEEM WITH JEEM WITH YEH FINAL=FORM;ARABIC LIGATURE MEEM WITH KHAH INITIAL=FORM;
ARABIC LIGATURE MEEM WITH KHAH ISOLATED=FORM;ARABIC LIGATURE MEEM WITH KHAH WITH JEEM INITIAL=FORM;
ARABIC LIGATURE MEEM WITH KHAH WITH MEEM INITIAL=FORM;
ARABIC LIGATURE MEEM WITH KHAH WITH YEH FINAL=FORM;ARABIC LIGATURE MEEM WITH MEEM FINAL=FORM;
ARABIC LIGATURE MEEM WITH MEEM INITIAL=FORM;ARABIC LIGATURE MEEM WITH MEEM ISOLATED=FORM;
ARABIC LIGATURE MEEM WITH MEEM WITH YEH FINAL=FORM;ARABIC LIGATURE MEEM WITH YEH ISOLATED=FORM;
ARABIC LIGATURE MOHAMMAD ISOLATED=FORM;ARABIC LIGATURE NOON WITH ALEF MAKSURA FINAL=FORM;
ARABIC LIGATURE NOON WITH ALEF MAKSURA ISOLATED=FORM;ARABIC LIGATURE NOON WITH HAH INITIAL=FORM;
ARABIC LIGATURE NOON WITH HAH ISOLATED=FORM;
ARABIC LIGATURE NOON WITH HAH WITH ALEF MAKSURA FINAL=FORM;
ARABIC LIGATURE NOON WITH HAH WITH MEEM INITIAL=FORM;
ARABIC LIGATURE NOON WITH HAH WITH YEH FINAL=FORM;ARABIC LIGATURE NOON WITH HEH INITIAL=FORM;
ARABIC LIGATURE NOON WITH HEH MEDIAL=FORM;ARABIC LIGATURE NOON WITH JEEM INITIAL=FORM;
ARABIC LIGATURE NOON WITH JEEM ISOLATED=FORM;
ARABIC LIGATURE NOON WITH JEEM WITH ALEF MAKSURA FINAL=FORM;
ARABIC LIGATURE NOON WITH JEEM WITH HAH FINAL=FORM;
ARABIC LIGATURE NOON WITH JEEM WITH HAH INITIAL=FORM;
ARABIC LIGATURE NOON WITH JEEM WITH MEEM FINAL=FORM;
ARABIC LIGATURE NOON WITH JEEM WITH MEEM INITIAL=FORM;
ARABIC LIGATURE NOON WITH JEEM WITH YEH FINAL=FORM;ARABIC LIGATURE NOON WITH KHAH INITIAL=FORM;
ARABIC LIGATURE NOON WITH KHAH ISOLATED=FORM;ARABIC LIGATURE NOON WITH MEEM FINAL=FORM;
ARABIC LIGATURE NOON WITH MEEM INITIAL=FORM;ARABIC LIGATURE NOON WITH MEEM ISOLATED=FORM;
ARABIC LIGATURE NOON WITH MEEM MEDIAL=FORM;
ARABIC LIGATURE NOON WITH MEEM WITH ALEF MAKSURA FINAL=FORM;
ARABIC LIGATURE NOON WITH MEEM WITH YEH FINAL=FORM;ARABIC LIGATURE NOON WITH NOON FINAL=FORM;
ARABIC LIGATURE NOON WITH REH FINAL=FORM;ARABIC LIGATURE NOON WITH YEH FINAL=FORM;
ARABIC LIGATURE NOON WITH YEH ISOLATED=FORM;ARABIC LIGATURE NOON WITH ZAIN FINAL=FORM;
ARABIC LIGATURE QAF WITH ALEF MAKSURA FINAL=FORM;
ARABIC LIGATURE QAF WITH ALEF MAKSURA ISOLATED=FORM;ARABIC LIGATURE QAF WITH HAH INITIAL=FORM;
ARABIC LIGATURE QAF WITH HAH ISOLATED=FORM;ARABIC LIGATURE QAF WITH MEEM INITIAL=FORM;
ARABIC LIGATURE QAF WITH MEEM ISOLATED=FORM;ARABIC LIGATURE QAF WITH MEEM WITH HAH FINAL=FORM;
ARABIC LIGATURE QAF WITH MEEM WITH HAH INITIAL=FORM;
ARABIC LIGATURE QAF WITH MEEM WITH MEEM FINAL=FORM;
ARABIC LIGATURE QAF WITH MEEM WITH YEH FINAL=FORM;ARABIC LIGATURE QAF WITH YEH FINAL=FORM;
ARABIC LIGATURE QAF WITH YEH ISOLATED=FORM;
ARABIC LIGATURE QALA USED AS KORANIC STOP SIGN ISOLATED=FORM;ARABIC LIGATURE QUDDISA=SIRRAH;
ARABIC LIGATURE RADI ALLAAHU=ANH,ANHAA,ANHUM,ANHUMAA,ANHUNNA;ARABIC LIGATURE RAHIMAHU=ALLAAH;
ARABIC LIGATURE RAHIMAHUM=ALLAAH;ARABIC LIGATURE RASOUL ISOLATED=FORM;
ARABIC LIGATURE REH WITH SUPERSCRIPT ALEF ISOLATED=FORM;
ARABIC LIGATURE SAD WITH ALEF MAKSURA FINAL=FORM;
ARABIC LIGATURE SAD WITH ALEF MAKSURA ISOLATED=FORM;ARABIC LIGATURE SAD WITH HAH INITIAL=FORM;
ARABIC LIGATURE SAD WITH HAH ISOLATED=FORM;ARABIC LIGATURE SAD WITH HAH WITH HAH FINAL=FORM;
ARABIC LIGATURE SAD WITH HAH WITH HAH INITIAL=FORM;
ARABIC LIGATURE SAD WITH HAH WITH YEH FINAL=FORM;ARABIC LIGATURE SAD WITH KHAH INITIAL=FORM;
ARABIC LIGATURE SAD WITH MEEM INITIAL=FORM;ARABIC LIGATURE SAD WITH MEEM ISOLATED=FORM;
ARABIC LIGATURE SAD WITH MEEM WITH MEEM FINAL=FORM;
ARABIC LIGATURE SAD WITH MEEM WITH MEEM INITIAL=FORM;ARABIC LIGATURE SAD WITH REH FINAL=FORM;
ARABIC LIGATURE SAD WITH REH ISOLATED=FORM;ARABIC LIGATURE SAD WITH YEH FINAL=FORM;
ARABIC LIGATURE SAD WITH YEH ISOLATED=FORM;ARABIC LIGATURE SALAAMUHU=ALAYNAA;
ARABIC LIGATURE SALAM ISOLATED=FORM;ARABIC LIGATURE SALLA ISOLATED=FORM;
ARABIC LIGATURE SALLA USED AS KORANIC STOP SIGN ISOLATED=FORM;
ARABIC LIGATURE SALLALLAAHU ALAYHI=WA-AALIH;ARABIC LIGATURE SALLALLAHOU ALAYHE=WASALLAM;
ARABIC LIGATURE SALLALLAHU ALAYHI WAAALIHEE=WA-SALLAM;
ARABIC LIGATURE SEEN WITH ALEF MAKSURA FINAL=FORM;
ARABIC LIGATURE SEEN WITH ALEF MAKSURA ISOLATED=FORM;ARABIC LIGATURE SEEN WITH HAH INITIAL=FORM;
ARABIC LIGATURE SEEN WITH HAH ISOLATED=FORM;ARABIC LIGATURE SEEN WITH HAH MEDIAL=FORM;
ARABIC LIGATURE SEEN WITH HAH WITH JEEM INITIAL=FORM;ARABIC LIGATURE SEEN WITH HEH INITIAL=FORM;
ARABIC LIGATURE SEEN WITH HEH MEDIAL=FORM;ARABIC LIGATURE SEEN WITH JEEM INITIAL=FORM;
ARABIC LIGATURE SEEN WITH JEEM ISOLATED=FORM;ARABIC LIGATURE SEEN WITH JEEM MEDIAL=FORM;
ARABIC LIGATURE SEEN WITH JEEM WITH ALEF MAKSURA FINAL=FORM;
ARABIC LIGATURE SEEN WITH JEEM WITH HAH INITIAL=FORM;ARABIC LIGATURE SEEN WITH KHAH INITIAL=FORM;
ARABIC LIGATURE SEEN WITH KHAH ISOLATED=FORM;ARABIC LIGATURE SEEN WITH KHAH MEDIAL=FORM;
ARABIC LIGATURE SEEN WITH KHAH WITH ALEF MAKSURA FINAL=FORM;
ARABIC LIGATURE SEEN WITH KHAH WITH YEH FINAL=FORM;ARABIC LIGATURE SEEN WITH MEEM INITIAL=FORM;
ARABIC LIGATURE SEEN WITH MEEM ISOLATED=FORM;ARABIC LIGATURE SEEN WITH MEEM MEDIAL=FORM;
ARABIC LIGATURE SEEN WITH MEEM WITH HAH FINAL=FORM;
ARABIC LIGATURE SEEN WITH MEEM WITH HAH INITIAL=FORM;
ARABIC LIGATURE SEEN WITH MEEM WITH JEEM INITIAL=FORM;
ARABIC LIGATURE SEEN WITH MEEM WITH MEEM FINAL=FORM;
ARABIC LIGATURE SEEN WITH MEEM WITH MEEM INITIAL=FORM;ARABIC LIGATURE SEEN WITH REH FINAL=FORM;
ARABIC LIGATURE SEEN WITH REH ISOLATED=FORM;ARABIC LIGATURE SEEN WITH YEH FINAL=FORM;
ARABIC LIGATURE SEEN WITH YEH ISOLATED=FORM;ARABIC LIGATURE SHADDA WITH DAMMA ISOLATED=FORM;
ARABIC LIGATURE SHADDA WITH DAMMA MEDIAL=FORM;ARABIC LIGATURE SHADDA WITH DAMMATAN ISOLATED=FORM;
ARABIC LIGATURE SHADDA WITH FATHA ISOLATED=FORM;ARABIC LIGATURE SHADDA WITH FATHA MEDIAL=FORM;
ARABIC LIGATURE SHADDA WITH KASRA ISOLATED=FORM;ARABIC LIGATURE SHADDA WITH KASRA MEDIAL=FORM;
ARABIC LIGATURE SHADDA WITH KASRATAN ISOLATED=FORM;
ARABIC LIGATURE SHADDA WITH SUPERSCRIPT ALEF ISOLATED=FORM;
ARABIC LIGATURE SHEEN WITH ALEF MAKSURA FINAL=FORM;
ARABIC LIGATURE SHEEN WITH ALEF MAKSURA ISOLATED=FORM;ARABIC LIGATURE SHEEN WITH HAH FINAL=FORM;
ARABIC LIGATURE SHEEN WITH HAH INITIAL=FORM;ARABIC LIGATURE SHEEN WITH HAH ISOLATED=FORM;
ARABIC LIGATURE SHEEN WITH HAH MEDIAL=FORM;ARABIC LIGATURE SHEEN WITH HAH WITH MEEM FINAL=FORM;
ARABIC LIGATURE SHEEN WITH HAH WITH MEEM INITIAL=FORM;
ARABIC LIGATURE SHEEN WITH HAH WITH YEH FINAL=FORM;ARABIC LIGATURE SHEEN WITH HEH INITIAL=FORM;
ARABIC LIGATURE SHEEN WITH HEH MEDIAL=FORM;ARABIC LIGATURE SHEEN WITH JEEM FINAL=FORM;
ARABIC LIGATURE SHEEN WITH JEEM INITIAL=FORM;ARABIC LIGATURE SHEEN WITH JEEM ISOLATED=FORM;
ARABIC LIGATURE SHEEN WITH JEEM MEDIAL=FORM;ARABIC LIGATURE SHEEN WITH JEEM WITH YEH FINAL=FORM;
ARABIC LIGATURE SHEEN WITH KHAH FINAL=FORM;ARABIC LIGATURE SHEEN WITH KHAH INITIAL=FORM;
ARABIC LIGATURE SHEEN WITH KHAH ISOLATED=FORM;ARABIC LIGATURE SHEEN WITH KHAH MEDIAL=FORM;
ARABIC LIGATURE SHEEN WITH MEEM FINAL=FORM;ARABIC LIGATURE SHEEN WITH MEEM INITIAL=FORM;
ARABIC LIGATURE SHEEN WITH MEEM ISOLATED=FORM;ARABIC LIGATURE SHEEN WITH MEEM MEDIAL=FORM;
ARABIC LIGATURE SHEEN WITH MEEM WITH KHAH FINAL=FORM;
ARABIC LIGATURE SHEEN WITH MEEM WITH KHAH INITIAL=FORM;
ARABIC LIGATURE SHEEN WITH MEEM WITH MEEM FINAL=FORM;
ARABIC LIGATURE SHEEN WITH MEEM WITH MEEM INITIAL=FORM;ARABIC LIGATURE SHEEN WITH REH FINAL=FORM;
ARABIC LIGATURE SHEEN WITH REH ISOLATED=FORM;ARABIC LIGATURE SHEEN WITH YEH FINAL=FORM;
ARABIC LIGATURE SHEEN WITH YEH ISOLATED=FORM;ARABIC LIGATURE SUBHAANAHU WA=TAAALAA;
ARABIC LIGATURE TABAARAKA=WA-TAAALAA;ARABIC LIGATURE TAH WITH ALEF MAKSURA FINAL=FORM;
ARABIC LIGATURE TAH WITH ALEF MAKSURA ISOLATED=FORM;ARABIC LIGATURE TAH WITH HAH INITIAL=FORM;
ARABIC LIGATURE TAH WITH HAH ISOLATED=FORM;ARABIC LIGATURE TAH WITH MEEM INITIAL=FORM;
ARABIC LIGATURE TAH WITH MEEM ISOLATED=FORM;ARABIC LIGATURE TAH WITH MEEM MEDIAL=FORM;
ARABIC LIGATURE TAH WITH MEEM WITH HAH FINAL=FORM;
ARABIC LIGATURE TAH WITH MEEM WITH HAH INITIAL=FORM;
ARABIC LIGATURE TAH WITH MEEM WITH MEEM INITIAL=FORM;
ARABIC LIGATURE TAH WITH MEEM WITH YEH FINAL=FORM;ARABIC LIGATURE TAH WITH YEH FINAL=FORM;
ARABIC LIGATURE TAH WITH YEH ISOLATED=FORM;ARABIC LIGATURE TEH WITH ALEF MAKSURA FINAL=FORM;
ARABIC LIGATURE TEH WITH ALEF MAKSURA ISOLATED=FORM;ARABIC LIGATURE TEH WITH HAH INITIAL=FORM;
ARABIC LIGATURE TEH WITH HAH ISOLATED=FORM;ARABIC LIGATURE TEH WITH HAH WITH JEEM FINAL=FORM;
ARABIC LIGATURE TEH WITH HAH WITH JEEM INITIAL=FORM;
ARABIC LIGATURE TEH WITH HAH WITH MEEM INITIAL=FORM;ARABIC LIGATURE TEH WITH HEH INITIAL=FORM;
ARABIC LIGATURE TEH WITH HEH MEDIAL=FORM;ARABIC LIGATURE TEH WITH JEEM INITIAL=FORM;
ARABIC LIGATURE TEH WITH JEEM ISOLATED=FORM;
ARABIC LIGATURE TEH WITH JEEM WITH ALEF MAKSURA FINAL=FORM;
ARABIC LIGATURE TEH WITH JEEM WITH MEEM INITIAL=FORM;
ARABIC LIGATURE TEH WITH JEEM WITH YEH FINAL=FORM;ARABIC LIGATURE TEH WITH KHAH INITIAL=FORM;
ARABIC LIGATURE TEH WITH KHAH ISOLATED=FORM;
ARABIC LIGATURE TEH WITH KHAH WITH ALEF MAKSURA FINAL=FORM;
ARABIC LIGATURE TEH WITH KHAH WITH MEEM INITIAL=FORM;
ARABIC LIGATURE TEH WITH KHAH WITH YEH FINAL=FORM;ARABIC LIGATURE TEH WITH MEEM FINAL=FORM;
ARABIC LIGATURE TEH WITH MEEM INITIAL=FORM;ARABIC LIGATURE TEH WITH MEEM ISOLATED=FORM;
ARABIC LIGATURE TEH WITH MEEM MEDIAL=FORM;
ARABIC LIGATURE TEH WITH MEEM WITH ALEF MAKSURA FINAL=FORM;
ARABIC LIGATURE TEH WITH MEEM WITH HAH INITIAL=FORM;
ARABIC LIGATURE TEH WITH MEEM WITH JEEM INITIAL=FORM;
ARABIC LIGATURE TEH WITH MEEM WITH KHAH INITIAL=FORM;
ARABIC LIGATURE TEH WITH MEEM WITH YEH FINAL=FORM;ARABIC LIGATURE TEH WITH NOON FINAL=FORM;
ARABIC LIGATURE TEH WITH REH FINAL=FORM;ARABIC LIGATURE TEH WITH YEH FINAL=FORM;
ARABIC LIGATURE TEH WITH YEH ISOLATED=FORM;ARABIC LIGATURE TEH WITH ZAIN FINAL=FORM;
ARABIC LIGATURE THAL WITH SUPERSCRIPT ALEF ISOLATED=FORM;
ARABIC LIGATURE THEH WITH ALEF MAKSURA FINAL=FORM;
ARABIC LIGATURE THEH WITH ALEF MAKSURA ISOLATED=FORM;ARABIC LIGATURE THEH WITH HEH MEDIAL=FORM;
ARABIC LIGATURE THEH WITH JEEM ISOLATED=FORM;ARABIC LIGATURE THEH WITH MEEM FINAL=FORM;
ARABIC LIGATURE THEH WITH MEEM INITIAL=FORM;ARABIC LIGATURE THEH WITH MEEM ISOLATED=FORM;
ARABIC LIGATURE THEH WITH MEEM MEDIAL=FORM;ARABIC LIGATURE THEH WITH NOON FINAL=FORM;
ARABIC LIGATURE THEH WITH REH FINAL=FORM;ARABIC LIGATURE THEH WITH YEH FINAL=FORM;
ARABIC LIGATURE THEH WITH YEH ISOLATED=FORM;ARABIC LIGATURE THEH WITH ZAIN FINAL=FORM;
ARABIC LIGATURE UIGHUR KIRGHIZ YEH WITH HAMZA ABOVE WITH ALEF MAKSURA FINAL=FORM;
ARABIC LIGATURE UIGHUR KIRGHIZ YEH WITH HAMZA ABOVE WITH ALEF MAKSURA INITIAL=FORM;
ARABIC LIGATURE UIGHUR KIRGHIZ YEH WITH HAMZA ABOVE WITH ALEF MAKSURA ISOLATED=FORM;
ARABIC LIGATURE WASALLAM ISOLATED=FORM;ARABIC LIGATURE YEH WITH ALEF MAKSURA FINAL=FORM;
ARABIC LIGATURE YEH WITH ALEF MAKSURA ISOLATED=FORM;ARABIC LIGATURE YEH WITH HAH INITIAL=FORM;
ARABIC LIGATURE YEH WITH HAH ISOLATED=FORM;ARABIC LIGATURE YEH WITH HAH WITH YEH FINAL=FORM;
ARABIC LIGATURE YEH WITH HAMZA ABOVE WITH AE FINAL=FORM;
ARABIC LIGATURE YEH WITH HAMZA ABOVE WITH AE ISOLATED=FORM;
ARABIC LIGATURE YEH WITH HAMZA ABOVE WITH ALEF FINAL=FORM;
ARABIC LIGATURE YEH WITH HAMZA ABOVE WITH ALEF ISOLATED=FORM;
ARABIC LIGATURE YEH WITH HAMZA ABOVE WITH ALEF MAKSURA FINAL=FORM;
ARABIC LIGATURE YEH WITH HAMZA ABOVE WITH ALEF MAKSURA ISOLATED=FORM;
ARABIC LIGATURE YEH WITH HAMZA ABOVE WITH E FINAL=FORM;
ARABIC LIGATURE YEH WITH HAMZA ABOVE WITH E INITIAL=FORM;
ARABIC LIGATURE YEH WITH HAMZA ABOVE WITH E ISOLATED=FORM;
ARABIC LIGATURE YEH WITH HAMZA ABOVE WITH HAH INITIAL=FORM;
ARABIC LIGATURE YEH WITH HAMZA ABOVE WITH HAH ISOLATED=FORM;
ARABIC LIGATURE YEH WITH HAMZA ABOVE WITH HEH INITIAL=FORM;
ARABIC LIGATURE YEH WITH HAMZA ABOVE WITH HEH MEDIAL=FORM;
ARABIC LIGATURE YEH WITH HAMZA ABOVE WITH JEEM INITIAL=FORM;
ARABIC LIGATURE YEH WITH HAMZA ABOVE WITH JEEM ISOLATED=FORM;
ARABIC LIGATURE YEH WITH HAMZA ABOVE WITH KHAH INITIAL=FORM;
ARABIC LIGATURE YEH WITH HAMZA ABOVE WITH MEEM FINAL=FORM;
ARABIC LIGATURE YEH WITH HAMZA ABOVE WITH MEEM INITIAL=FORM;
ARABIC LIGATURE YEH WITH HAMZA ABOVE WITH MEEM ISOLATED=FORM;
ARABIC LIGATURE YEH WITH HAMZA ABOVE WITH MEEM MEDIAL=FORM;
ARABIC LIGATURE YEH WITH HAMZA ABOVE WITH NOON FINAL=FORM;
ARABIC LIGATURE YEH WITH HAMZA ABOVE WITH OE FINAL=FORM;
ARABIC LIGATURE YEH WITH HAMZA ABOVE WITH OE ISOLATED=FORM;
ARABIC LIGATURE YEH WITH HAMZA ABOVE WITH REH FINAL=FORM;
ARABIC LIGATURE YEH WITH HAMZA ABOVE WITH U FINAL=FORM;
ARABIC LIGATURE YEH WITH HAMZA ABOVE WITH U ISOLATED=FORM;
ARABIC LIGATURE YEH WITH HAMZA ABOVE WITH WAW FINAL=FORM;
ARABIC LIGATURE YEH WITH HAMZA ABOVE WITH WAW ISOLATED=FORM;
ARABIC LIGATURE YEH WITH HAMZA ABOVE WITH YEH FINAL=FORM;
ARABIC LIGATURE YEH WITH HAMZA ABOVE WITH YEH ISOLATED=FORM;
ARABIC LIGATURE YEH WITH HAMZA ABOVE WITH YU FINAL=FORM;
ARABIC LIGATURE YEH WITH HAMZA ABOVE WITH YU ISOLATED=FORM;
ARABIC LIGATURE YEH WITH HAMZA ABOVE WITH ZAIN FINAL=FORM;
ARABIC LIGATURE YEH WITH HEH INITIAL=FORM;ARABIC LIGATURE YEH WITH HEH MEDIAL=FORM;
ARABIC LIGATURE YEH WITH JEEM INITIAL=FORM;ARABIC LIGATURE YEH WITH JEEM ISOLATED=FORM;
ARABIC LIGATURE YEH WITH JEEM WITH YEH FINAL=FORM;ARABIC LIGATURE YEH WITH KHAH INITIAL=FORM;
ARABIC LIGATURE YEH WITH KHAH ISOLATED=FORM;ARABIC LIGATURE YEH WITH MEEM FINAL=FORM;
ARABIC LIGATURE YEH WITH MEEM INITIAL=FORM;ARABIC LIGATURE YEH WITH MEEM ISOLATED=FORM;
ARABIC LIGATURE YEH WITH MEEM MEDIAL=FORM;ARABIC LIGATURE YEH WITH MEEM WITH MEEM FINAL=FORM;
ARABIC LIGATURE YEH WITH MEEM WITH MEEM INITIAL=FORM;
ARABIC LIGATURE YEH WITH MEEM WITH YEH FINAL=FORM;ARABIC LIGATURE YEH WITH NOON FINAL=FORM;
ARABIC LIGATURE YEH WITH REH FINAL=FORM;ARABIC LIGATURE YEH WITH YEH FINAL=FORM;
ARABIC LIGATURE YEH WITH YEH ISOLATED=FORM;ARABIC LIGATURE YEH WITH ZAIN FINAL=FORM;
ARABIC LIGATURE ZAH WITH MEEM INITIAL=FORM;ARABIC LIGATURE ZAH WITH MEEM ISOLATED=FORM;
ARABIC LIGATURE ZAH WITH MEEM MEDIAL=FORM;ARABIC MADDA=WAAJIB;ARABIC MADDAH=ABOVE;
ARABIC MARK NOON=GHUNNA;ARABIC MARK SIDEWAYS NOON=GHUNNA;ARABIC MATHEMATICAL=AIN,ALEF,BEH,DAD,DAL,
FEH,GHAIN,HAH,JEEM,KAF,KHAH,LAM,MEEM,NOON,QAF,REH,SAD,SEEN,SHEEN,TAH,TEH,THAL,THEH,WAW,YEH,ZAH,
ZAIN;ARABIC MATHEMATICAL DOTLESS=BEH,FEH,NOON,QAF;ARABIC MATHEMATICAL DOUBLE-STRUCK=AIN,BEH,DAD,
DAL,FEH,GHAIN,HAH,JEEM,KHAH,LAM,MEEM,NOON,QAF,REH,SAD,SEEN,SHEEN,TAH,TEH,THAL,THEH,WAW,YEH,ZAH,
ZAIN;ARABIC MATHEMATICAL INITIAL=AIN,BEH,DAD,FEH,GHAIN,HAH,HEH,JEEM,KAF,KHAH,LAM,MEEM,NOON,QAF,SAD,
SEEN,SHEEN,TEH,THEH,YEH;ARABIC MATHEMATICAL LOOPED=AIN,ALEF,BEH,DAD,DAL,FEH,GHAIN,HAH,HEH,JEEM,
KHAH,LAM,MEEM,NOON,QAF,REH,SAD,SEEN,SHEEN,TAH,TEH,THAL,THEH,WAW,YEH,ZAH,ZAIN;
ARABIC MATHEMATICAL OPERATOR HAH WITH=DAL;ARABIC MATHEMATICAL OPERATOR MEEM WITH HAH WITH=TATWEEL;
ARABIC MATHEMATICAL STRETCHED=AIN,BEH,DAD,FEH,GHAIN,HAH,HEH,JEEM,KAF,KHAH,MEEM,NOON,QAF,SAD,SEEN,
SHEEN,TAH,TEH,THEH,YEH,ZAH;ARABIC MATHEMATICAL STRETCHED DOTLESS=BEH,FEH;
ARABIC MATHEMATICAL TAILED=AIN,DAD,GHAIN,HAH,JEEM,KHAH,LAM,NOON,QAF,SAD,SEEN,SHEEN,YEH;
ARABIC MATHEMATICAL TAILED DOTLESS=NOON,QAF;ARABIC NUMBER=SIGN;ARABIC NUMBER MARK=ABOVE;
ARABIC OPEN=DAMMATAN,FATHATAN,KASRATAN;ARABIC PERCENT=SIGN;ARABIC PIASTRE MARK=ABOVE;
ARABIC PLACE OF=SAJDAH;ARABIC POETIC VERSE=SIGN;ARABIC POUND MARK=ABOVE;ARABIC QUESTION=MARK;
ARABIC RAISED ROUND=DOT;ARABIC REVERSED=DAMMA;ARABIC RIGHT ARROWHEAD=ABOVE,BELOW;
ARABIC RIGHT ARROWHEAD ABOVE WITH=DOT;ARABIC ROUNDED HIGH STOP WITH FILLED=CENTRE;
ARABIC SHADDA ISOLATED=FORM;ARABIC SHADDA MEDIAL=FORM;ARABIC SIGN=MISRA,SAFHA,SAMVAT,SANAH,
TAKHALLUS;ARABIC SIGN ALAYHE=ASSALLAM;ARABIC SIGN RADI ALLAHOU=ANHU;ARABIC SIGN RAHMATULLAH=ALAYHE;
ARABIC SIGN SALLALLAHOU ALAYHE=WASSALLAM;ARABIC SIGN SINDHI=AMPERSAND;
ARABIC SIGN SINDHI POSTPOSITION=MEN;ARABIC SMALL=DAMMA,FATHA,KASRA,WAW,YEH;ARABIC SMALL FARSI=YEH;
ARABIC SMALL HIGH=AIN,JEEM,MADDA,NOON,QAF,SAD,SEEN,TAH,WAW,YEH,ZAH,ZAIN;
ARABIC SMALL HIGH DOTLESS HEAD OF=KHAH;ARABIC SMALL HIGH FARSI=YEH;
ARABIC SMALL HIGH FOOTNOTE=MARKER;ARABIC SMALL HIGH LAM=ALEF;
ARABIC SMALL HIGH LIGATURE ALEF WITH LAM WITH=YEH;
ARABIC SMALL HIGH LIGATURE QAF WITH LAM WITH ALEF=MAKSURA;
ARABIC SMALL HIGH LIGATURE SAD WITH LAM WITH ALEF=MAKSURA;ARABIC SMALL HIGH MEEM INITIAL=FORM;
ARABIC SMALL HIGH MEEM ISOLATED=FORM;ARABIC SMALL HIGH NOON WITH=KASRA;
ARABIC SMALL HIGH ROUNDED=ZERO;ARABIC SMALL HIGH SIGN=SAFHA;ARABIC SMALL HIGH THREE=DOTS;
ARABIC SMALL HIGH UPRIGHT RECTANGULAR=ZERO;ARABIC SMALL HIGH WORD=AL-JUZ,AN-NISF,AR-RUB,AS-SAJDA,
ATH-THALATHA,QIF,SAH,SAKTA,WAQFA;ARABIC SMALL HIGH YEH BARREE WITH TWO DOTS=BELOW;
ARABIC SMALL LOW=MEEM,SEEN,WAW;ARABIC SMALL LOW NOON WITH=KASRA;ARABIC SMALL LOW WORD=IMAALA,
ISHMAAM,TASHEEL;ARABIC START OF RUB EL=HIZB;ARABIC SUBSCRIPT=ALEF;ARABIC SUKUN=BELOW;
ARABIC SUKUN ISOLATED=FORM;ARABIC SUKUN MEDIAL=FORM;ARABIC SUPERSCRIPT ALEF=MOKHASSAS;
ARABIC SYMBOL=RING;ARABIC SYMBOL DOT=ABOVE,BELOW;ARABIC SYMBOL DOUBLE VERTICAL BAR=BELOW;
ARABIC SYMBOL FOUR DOTS=ABOVE,BELOW;ARABIC SYMBOL SMALL TAH=ABOVE,BELOW;
ARABIC SYMBOL THREE DOTS=ABOVE,BELOW;ARABIC SYMBOL THREE DOTS POINTING DOWNWARDS=ABOVE,BELOW;
ARABIC SYMBOL TWO DOTS=ABOVE,BELOW;ARABIC SYMBOL TWO DOTS VERTICALLY=ABOVE,BELOW;
ARABIC SYMBOL WASLA=ABOVE;ARABIC TAIL=FRAGMENT;ARABIC TATWEEL WITH FATHATAN=ABOVE;
ARABIC TATWEEL WITH OVERSTRUCK=HAMZA,WAW;ARABIC TATWEEL WITH TWO DOTS=BELOW;
ARABIC THOUSANDS=SEPARATOR;ARABIC TONE LOOP=ABOVE,BELOW;ARABIC TONE ONE DOT=ABOVE,BELOW;
ARABIC TONE TWO DOTS=ABOVE,BELOW;ARABIC TRIPLE DOT PUNCTUATION=MARK;ARABIC TURNED DAMMA=BELOW;
ARABIC VERTICAL=TAIL;ARABIC VOWEL SIGN DOT=BELOW;ARABIC VOWEL SIGN INVERTED SMALL V=ABOVE;
ARABIC VOWEL SIGN SMALL V=ABOVE;ARABIC WAVY HAMZA=BELOW;ARABIC-INDIC CUBE=ROOT;
ARABIC-INDIC DIGIT=EIGHT,FIVE,FOUR,NINE,ONE,SEVEN,SIX,THREE,TWO,ZERO;ARABIC-INDIC FOURTH=ROOT;
ARABIC-INDIC PER MILLE=SIGN;ARABIC-INDIC PER TEN THOUSAND=SIGN;ARMENIAN=APOSTROPHE,COMMA,HYPHEN;
ARMENIAN ABBREVIATION=MARK;ARMENIAN CAPITAL LETTER=AYB,BEN,CA,CHA,CHEH,CO,DA,ECH,EH,ET,FEH,GHAD,
GIM,HO,INI,JA,JHEH,KEH,KEN,LIWN,MEN,NOW,OH,PEH,PIWR,RA,REH,SEH,SHA,TIWN,TO,VEW,VO,XEH,YI,YIWN,ZA,
ZHE;ARMENIAN DRAM=SIGN;ARMENIAN EMPHASIS=MARK;ARMENIAN EXCLAMATION=MARK;ARMENIAN FULL=STOP;
ARMENIAN MODIFIER LETTER LEFT HALF=RING;ARMENIAN QUESTION=MARK;ARMENIAN SMALL LETTER=AYB,BEN,CA,
CHA,CHEH,CO,DA,ECH,EH,ET,FEH,GHAD,GIM,HO,INI,JA,JHEH,KEH,KEN,LIWN,MEN,NOW,OH,PEH,PIWR,RA,REH,SEH,
SHA,TIWN,TO,VEW,VO,XEH,YI,YIWN,ZA,ZHE;ARMENIAN SMALL LETTER TURNED=AYB;
ARMENIAN SMALL LETTER YI WITH=STROKE;ARMENIAN SMALL LIGATURE ECH=YIWN;
ARMENIAN SMALL LIGATURE MEN=ECH,INI,NOW,XEH;ARMENIAN SMALL LIGATURE VEW=NOW;
ARROW POINTING DOWNWARDS THEN CURVING=LEFTWARDS,RIGHTWARDS;
ARROW POINTING RIGHTWARDS THEN CURVING=DOWNWARDS,UPWARDS;
ARROW POINTING RIGHTWARDS THEN CURVING SOUTH=WEST;ARROW POINTING UPWARDS THEN NORTH=WEST;
ARROWHEAD-SHAPED=POINTER;ARTICULATED=LORRY;ARTIST=PALETTE;ASCENDING=NODE;ASCIA=SYMBOL;
ASTERISK=OPERATOR;ASTONISHED=FACE;ASTRONOMICAL SYMBOL FOR=URANUS;ASYMPTOTICALLY EQUAL=TO;
ATHLETIC=SHOE;ATOM=SYMBOL;AUSTRAL=SIGN;AUTO=RICKSHAW;AUTOMATED TELLER=MACHINE;
AVESTAN ABBREVIATION=MARK;AVESTAN LETTER=A,AA,AAN,AAO,AE,AEE,AN,AO,BE,BHE,CE,DE,DHE,E,EE,FE,GE,GGE,
GHE,HE,HME,I,II,JE,KE,LE,ME,NE,NGE,NGVE,NGYE,NNE,NYE,O,OO,PE,RE,SE,SHE,SHYE,SSHE,TE,THE,TTE,U,UU,
VE,XE,XVE,XYE,YE,YYE,ZE,ZHE;BABY=ANGEL,BOTTLE,CHICK,SYMBOL;BACK OF=ENVELOPE;
BACK WITH LEFTWARDS ARROW=ABOVE;BACK-TILTED SHADOWED WHITE RIGHTWARDS=ARROW;
BACKSLANTED SOUTH ARROW WITH HOOKED=TAIL;BACKSLANTED SOUTH ARROW WITH HORIZONTAL=TAIL;
BACTRIAN=CAMEL;BADMINTON RACQUET AND=SHUTTLECOCK;BAGGAGE=CLAIM;BAGUETTE=BREAD;BALINESE=PAMADA,
PAMENENG,PANTI,WINDU;BALINESE ADEG=ADEG;BALINESE CARIK=PAMUNGKAH,PAREREN,SIKI;BALINESE DIGIT=EIGHT,
FIVE,FOUR,NINE,ONE,SEVEN,SIX,THREE,TWO,ZERO;BALINESE LETTER=AIKARA,AKARA,BA,CA,DA,EKARA,GA,HA,
IKARA,JA,KA,LA,MA,NA,NGA,NYA,OKARA,PA,RA,SA,TA,UKARA,WA,YA;BALINESE LETTER AKARA=TEDUNG;
BALINESE LETTER ARCHAIC=JNYA;BALINESE LETTER ASYURA=SASAK;BALINESE LETTER BA=KEMBANG;
BALINESE LETTER CA=LACA;BALINESE LETTER DA=MADU;BALINESE LETTER DA MURDA=ALPAPRANA,MAHAPRANA;
BALINESE LETTER EF=SASAK;BALINESE LETTER GA=GORA;BALINESE LETTER IKARA=TEDUNG;
BALINESE LETTER JA=JERA;BALINESE LETTER KA=MAHAPRANA;BALINESE LETTER KAF=SASAK;
BALINESE LETTER KHOT=SASAK;BALINESE LETTER LA=LENGA;BALINESE LETTER LA LENGA=TEDUNG;
BALINESE LETTER NA=RAMBAT;BALINESE LETTER OKARA=TEDUNG;BALINESE LETTER PA=KAPAL;
BALINESE LETTER RA=REPA;BALINESE LETTER RA REPA=TEDUNG;BALINESE LETTER SA=SAGA,SAPA;
BALINESE LETTER TA=LATIK,TAWA;BALINESE LETTER TA MURDA=MAHAPRANA;BALINESE LETTER TZIR=SASAK;
BALINESE LETTER UKARA=TEDUNG;BALINESE LETTER VE=SASAK;BALINESE LETTER ZAL=SASAK;
BALINESE MUSICAL SYMBOL=DAENG,DAING,DANG,DENG,DEUNG,DING,DONG,DUNG;
BALINESE MUSICAL SYMBOL COMBINING=BENDE,ENDEP,GONG,JEGOGAN,KEMPLI,KEMPUL,TEGEH;
BALINESE MUSICAL SYMBOL COMBINING KEMPLI WITH=JEGOGAN;
BALINESE MUSICAL SYMBOL COMBINING KEMPUL WITH=JEGOGAN;BALINESE MUSICAL SYMBOL DANG=GEDE,SURANG;
BALINESE MUSICAL SYMBOL LEFT-HAND CLOSED=PLAK,PLUK;BALINESE MUSICAL SYMBOL LEFT-HAND OPEN=PANG,
PING,PUNG;BALINESE MUSICAL SYMBOL RIGHT-HAND CLOSED=TAK,TUK;
BALINESE MUSICAL SYMBOL RIGHT-HAND OPEN=DAG,DUG;BALINESE PAMADA=LANTANG;BALINESE PANTI=LANTANG;
BALINESE SIGN=BISAH,CECEK,REREKAN,SURANG;BALINESE SIGN ULU=CANDRA,RICEM;BALINESE VOWEL SIGN=PEPET,
SUKU,TALING,TEDUNG,ULU;BALINESE VOWEL SIGN LA=LENGA;BALINESE VOWEL SIGN LA LENGA=TEDUNG;
BALINESE VOWEL SIGN PEPET=TEDUNG;BALINESE VOWEL SIGN RA=REPA;BALINESE VOWEL SIGN RA REPA=TEDUNG;
BALINESE VOWEL SIGN SUKU=ILUT;BALINESE VOWEL SIGN TALING=REPA,TEDUNG;
BALINESE VOWEL SIGN TALING REPA=TEDUNG;BALINESE VOWEL SIGN ULU=SARI;BALL OF=YARN;BALLET=SHOES;
BALLOON-SPOKED=ASTERISK;BALLOT=BOX,X;BALLOT BOLD SCRIPT=X;BALLOT BOX WITH=BALLOT,CHECK,X;
BALLOT BOX WITH BOLD=CHECK;BALLOT BOX WITH BOLD SCRIPT=X;BALLOT BOX WITH LIGHT=X;
BALLOT BOX WITH SCRIPT=X;BALLOT SCRIPT=X;BAMUM=COLON,COMMA,NJAEMLI,SEMICOLON;
BAMUM COMBINING MARK=KOQNDON,TUKWENTIS;BAMUM FULL=STOP;BAMUM LETTER=A,EE,FAAMAE,FEE,FOM,FU,I,KA,
KEN,KET,KEUX,KI,KO,KOGHOM,KOVUU,KPA,KU,KYEE,LA,LEEEE,LI,LOQ,LU,M,MA,MBAA,MBEN,MEEEE,MEN,MI,MO,MU,
NA,NDAA,NGA,NGGA,NGKWAEN,NI,NJAEM,NJEE,NJUAE,NSHA,NTEE,NTUU,NU,NUAE,NYI,O,PA,PEE,PEUX,PI,PUAE,PUE,
RAE,REE,REN,REUX,RIEE,RII,RU,SAMBA,SEUX,SHEUX,SHII,SHO,SHU,SI,SUU,TAA,TAE,TEN,TET,TI,U,WA,WUE,YA,
YOQ,YUQ;BAMUM LETTER PHASE-A=FIRI,GHEUAEGHEUAE,GHEUAERAE,KAFA,KAQ,KET,KEUKEUTNDA,KPOQ,KUOQ,LAPAQ,
LOMMAE,LU,LUAEP,MAEKEUP,MAEM,MAEMBGBIEE,MAEMKPEN,MAEMVEUX,MAENYI,MAESI,MANSUAE,MBANYI,MBAQ,
MEUNJOMNDEUQ,MGBASA,MOOMEUT,MOOMPUQ,MVEUAENGAM,NAQ,NDAANGGEUAET,NEN,NGANGU,NGGEN,NGKUENZEUM,NIKA,
NJAM,NKAARAE,NKINDI,NSHA,NSHIEE,NTAP,NTOQPEN,NYET,NYI,PAAM,PAARAE,PAMSHAE,PASHAE,PET,PUP,ROM,
SEUNYAM,SHIRAE,SHUENSHUET,SHUM,SISA,SONJAM,SOQ,SOT,SUU,TEUAEN,TEUTEUWEN,TUAEP,UNKNOWN,VEE;
BAMUM LETTER PHASE-A GBIEE=FON;BAMUM LETTER PHASE-A LET=KUT;BAMUM LETTER PHASE-A MAP=PIEET;
BAMUM LETTER PHASE-A MON=NGGEUAET;BAMUM LETTER PHASE-A NAA=MFON;BAMUM LETTER PHASE-A NDA=LEERAEWA;
BAMUM LETTER PHASE-A NGKUE=MFON;BAMUM LETTER PHASE-A NTAP=MFAA,NTAA;
BAMUM LETTER PHASE-A NYIT=MONGKEUAEQ;BAMUM LETTER PHASE-A NZA=MFON;BAMUM LETTER PHASE-A NZUN=MEUT;
BAMUM LETTER PHASE-A PA=LEERAEWA;BAMUM LETTER PHASE-A PON MFON=PIPAEMBA,PIPAEMGBIEE;
BAMUM LETTER PHASE-A PON PA NJI=PIPAEMBA,PIPAEMGBIEE;BAMUM LETTER PHASE-A SHINDA PA=NJI;
BAMUM LETTER PHASE-A SHOQ NSHUT=YUM;BAMUM LETTER PHASE-A TITA=MFON;BAMUM LETTER PHASE-A TU=MAEMBA;
BAMUM LETTER PHASE-A U YUQ=NAE;BAMUM LETTER PHASE-B=FEE,FEUX,GHEUGHEN,GHEUGHEUAEM,KAM,KEUAEM,
KEUPUQ,KEUYEUX,KIEEM,KIQ,LAANAE,LET,MA,MBAARAE,MBEURI,MBUOQ,MEUQ,MFIYAQ,MONTIEEN,NGGAAM,NGGUOQ,
NGOM,NSEN,NSHUET,NYAEMAE,PARUM,PEESHI,PIT,PUNGAAM,SAKEUAE,SHEUAEQTU,SIEE,SUE,TAAM,VEUM,WUAET,
YEURAE;BAMUM LETTER PHASE-B LAM NSHUT=NYAM;BAMUM LETTER PHASE-B LOM=NTEUM;
BAMUM LETTER PHASE-B MA=NJEUAENA,NJUQA;BAMUM LETTER PHASE-B MBA=MAELEE;
BAMUM LETTER PHASE-B MBIT=MBAAKET;BAMUM LETTER PHASE-B MEUT=NGGEET;
BAMUM LETTER PHASE-B MFON=TEUAEQ;BAMUM LETTER PHASE-B NDU=NJAA;BAMUM LETTER PHASE-B NGGEU=MBU;
BAMUM LETTER PHASE-B NGGUOQ=LARGE;BAMUM LETTER PHASE-B NGKINDI=MVOP;
BAMUM LETTER PHASE-B NTIEE=SHEUOQ;BAMUM LETTER PHASE-B NYI=NTEUM;BAMUM LETTER PHASE-B SET=TU;
BAMUM LETTER PHASE-B SHET=NJAQ;BAMUM LETTER PHASE-B TU=MAEMGBIEE,NSIEE;
BAMUM LETTER PHASE-B YAFU=LEERAEWA;BAMUM LETTER PHASE-C=BUNG,FUE,GBAYI,GHAP,GHARAE,KAA,KET,KEUKAQ,
KEUM,KEUSEUX,KEUSHEUAEP,KPARAQ,KUT,LAM,LAP,LIQ,LU,MAEMBA,MAESI,MBANYI,MBEEKEET,MBERAE,MBEUM,MBEUX,
MBI,MBIRIEEN,MBIT,MBUAEM,MBUE,MGBASAQ,MIEE,MUAE,NANSANAQ,NAQ,NDAM,NDAP,NDEUAEREE,NDEUT,NDIDA,
NDOMBU,NGAQ,NGGEN,NGGU,NGGUEET,NGGUM,NGGUON,NGKAQ,NGOM,NJAEM,NJAM,NJEEEE,NJEUX,NJUEQ,NSA,NSEUAEN,
NSHAQ,NSOM,NSUN,NTAA,NTEN,NTEUNGBA,NZA,NZEUM,PEN,PIN,PIRIEEN,RU,SETFON,SEUX,SHIQ,SHUEQ,SUAET,
TAASHAE,TET,TEUTEUX,TITUAEP,VEUAEPEN,VEUX,WANGKUOQ,WUP,YAA,YEUQ,YUM,YUWOQ;
BAMUM LETTER PHASE-C KEN=FATIGUE,LAW;BAMUM LETTER PHASE-C KUOP=NKAARAE;
BAMUM LETTER PHASE-C MA=KEUAERI,NSIEE;BAMUM LETTER PHASE-C MBAA=CABBAGE-TREE,PICKET;
BAMUM LETTER PHASE-C NGGUAEN=NYAM;BAMUM LETTER PHASE-C NGKUE=MAEMBA;
BAMUM LETTER PHASE-C NSUOT=NGOM;BAMUM LETTER PHASE-C NTU=MBIT;
BAMUM LETTER PHASE-C NYIR MKPARAQ=MEUN;BAMUM LETTER PHASE-C TITA=YUE;
BAMUM LETTER PHASE-C YU=MUOMAE;BAMUM LETTER PHASE-D=FAA,FEUFEUAET,GHAA,GHEUAE,KET,KEUAETMEUN,KEUM,
KEUP,KU,KUN,KUOM,KUQ,KWAET,KYEE,LEEEE,LET,LEUAEP,LEUM,LIEE,LOQ,LUM,M,MAENJET,MALEERI,MBAA,MBUO,
MEEEE,MEUN,MEUT,MFEUAE,MFEUT,MFIEE,MFO,MFON,MGBEUN,MGBIEE,MGBOFUM,MONI,MU,MVOP,NDAM,NDEE,NDEUX,
NDON,NGGAAM,NGGAAMAE,NGGAP,NGGEUX,NGGUOM,NGGWAEN,NGKAP,NGKEUAEQ,NGKEURI,NGKIEE,NGKUN,NGKYEE,NI,
NJAP,NJEUAEM,NJEUT,NJI,NJIEE,NJUEQ,NSHEE,NSHUT,NSIEEP,NSIEET,NSUM,NTEE,NTEUM,NTUU,NU,NYAM,NYET,NYI,
NYUE,PAP,PEE,PEUTAE,PIP,PUQ,PUUT,RAEM,RII,SAP,SAQ,SEUAEQ,SHEE,SHEUAE,SHEUX,SHII,SHOQ,SHU,SOT,SUAE,
SUE,SUU,TAE,TEEEE,TEUAEN,TEUN,TEUT,TI,TOQ,TU,TUOT,WAP,WUAEN,YAEMMAE,YEN,YUOM,YUOP,YUWOQ;
BAMUM LETTER PHASE-D KEUOT=MBUAE;BAMUM LETTER PHASE-D MBAA=SEVEN;BAMUM LETTER PHASE-D REN=MUCH,OLD;
BAMUM LETTER PHASE-E=A,FA,FAQ,FEE,FOM,FUE,FUET,GBET,GBEUX,GHAAMAE,GHET,GHEUAE,GHEUN,GHEUX,GHOM,I,
KET,KEUAE,KEUX,KI,KO,KPEUX,KUET,KUOP,KUT,LAAM,LAP,LAQ,LEUAEM,LOM,LOON,LOOT,LOQ,LU,MA,MAE,MAEM,MAP,
MAQ,MBEE,MBEUM,MEN,MFEUQ,MGBA,MGBEN,MI,MIEE,MON,MUAE,MVI,NA,NAE,NDAP,NDIAQ,NDIQ,NDUN,NGA,NGEUREUT,
NGGEEEE,NGGEUAE,NGGEUAET,NGGUP,NGGURAE,NGKA,NGKAAMI,NGKEUAEM,NGKEUX,NGKUM,NGKUP,NGOP,NGOQ,NGUAE,
NGUAET,NJAEMLI,NJEE,NJEUX,NKOM,NSHIEE,NSHUE,NSHUOP,NTAP,NTUM,NZAQ,NZUQ,O,PAA,PAAM,PEEM,PEUT,PEUX,
PI,PIEEQ,PIET,PO,POON,PU,PUAE,PUAQ,PUE,PUM,RAE,RAQ,REUX,RIMGBA,SAA,SEE,SET,SHEUAEQ,SHIQ,SHO,SHOQ,
SOM,SUAEN,TAA,TAAQ,TAM,TAQ,TEN,TEU,TEUAEQ,TOO,TOON,TOQ,TUAE,TUM,TUMAE,VEE,VEUAE,VOM,WEUX,WUE,WUO,
YAP,YEUAE,YEUAET,YEUM,YEUX,YIEE,YIT,YUAEN,YUEQ,YUN,YUQ;BAMUM LETTER PHASE-E FU=CALL,I,REMEDY;
BAMUM LETTER PHASE-E NDAA=SOFTNESS;BAMUM LETTER PHASE-E NDAA MY=HOUSE;
BAMUM LETTER PHASE-E NGGUAESHAE=NYAM;BAMUM LETTER PHASE-E NJEE=EPOCH;
BAMUM LETTER PHASE-E NYI=BETWEEN,CLEAVER;BAMUM LETTER PHASE-E PA=PEOPLE,PLURAL;
BAMUM LETTER PHASE-E TAEN=NTEUM;BAMUM LETTER PHASE-E YOQ=COVER,SWIMMING;BAMUM LETTER PHASE-F=EE,
FOM,KA,KEN,KET,KO,KPA,KU,KYEE,LA,LI,LOQ,M,MA,MBAA,MBEN,MEEEE,MO,NDAA,NGGA,NGKWAEN,NI,NJAEM,NJUAE,
NSHA,NTEE,NU,NUAE,NYI,PEE,PEUX,PUAE,REE,REN,REUX,RIEE,RII,RU,SAMBA,SEUX,SHII,SHO,SHU,SI,SUU,TAA,
TAE,TET,U,VUEQ,WA,WUE,YA,YOQ;BAMUM QUESTION=MARK;BANKNOTE WITH DOLLAR=SIGN;BANKNOTE WITH EURO=SIGN;
BANKNOTE WITH POUND=SIGN;BANKNOTE WITH YEN=SIGN;BAR=CHART;BAR OF=SOAP;BARBER=POLE;
BASKETBALL AND=HOOP;BASSA VAH COMBINING HIGH=TONE;BASSA VAH COMBINING HIGH-LOW=TONE;
BASSA VAH COMBINING LOW=TONE;BASSA VAH COMBINING LOW-MID=TONE;BASSA VAH COMBINING MID=TONE;
BASSA VAH FULL=STOP;BASSA VAH LETTER=A,BA,CE,DHII,DO,E,EE,ENNI,FA,GAH,GBU,HWAH,I,JO,KA,KPAH,MBE,O,
OO,PA,SE,TO,U,UWU,VU,WA,WADDA,YEIN,YIE,ZO;BATAK=PANGOLAT,PANONGONAN;BATAK CONSONANT SIGN=H,NG;
BATAK LETTER=A,BA,CA,DA,GA,HA,I,JA,LA,MA,MBA,NA,NDA,NGA,NYA,PA,RA,SA,U,WA,YA;BATAK LETTER KARO=BA;
BATAK LETTER MANDAILING=HA,NA,SA;BATAK LETTER NORTHERN=TA;BATAK LETTER PAKPAK=WA;
BATAK LETTER SIMALUNGUN=A,GA,HA,LA,MA,PA,RA,SA,WA,YA;BATAK LETTER SOUTHERN=TA;BATAK SIGN=TOMPI;
BATAK SYMBOL BINDU=JUDUL,PANGOLAT,PINARBORAS;BATAK SYMBOL BINDU NA=METEK;BATAK VOWEL SIGN=E,EE,I,O,
U;BATAK VOWEL SIGN KARO=I,O;BATAK VOWEL SIGN PAKPAK=E;BATAK VOWEL SIGN U FOR SIMALUNGUN=SA;
BEACH WITH=UMBRELLA;BEAMED ASCENDING MUSICAL=NOTES;BEAMED DESCENDING MUSICAL=NOTES;
BEAMED EIGHTH=NOTES;BEAMED SIXTEENTH=NOTES;BEAR=FACE;BEARDED=PERSON;BEATING=HEART;BEER=MUG;
BELL=PEPPER,SYMBOL;BELL WITH CANCELLATION=STROKE;BELLHOP=BELL;BENGALI=ANJI,ISSHAR;
BENGALI ABBREVIATION=SIGN;BENGALI AU LENGTH=MARK;BENGALI CURRENCY DENOMINATOR=SIXTEEN;
BENGALI CURRENCY NUMERATOR=FOUR,ONE,THREE,TWO;
BENGALI CURRENCY NUMERATOR ONE LESS THAN THE=DENOMINATOR;BENGALI DIGIT=EIGHT,FIVE,FOUR,NINE,ONE,
SEVEN,SIX,THREE,TWO,ZERO;BENGALI GANDA=MARK;BENGALI LETTER=A,AA,AI,AU,BA,BHA,CA,CHA,DA,DDA,DDHA,
DHA,E,GA,GHA,HA,I,II,JA,JHA,KA,KHA,LA,MA,NA,NGA,NNA,NYA,O,PA,PHA,RA,RHA,RRA,SA,SHA,SSA,TA,THA,TTA,
TTHA,U,UU,YA,YYA;BENGALI LETTER KHANDA=TA;BENGALI LETTER RA WITH LOWER=DIAGONAL;
BENGALI LETTER RA WITH MIDDLE=DIAGONAL;BENGALI LETTER VEDIC=ANUSVARA;BENGALI LETTER VOCALIC=L,LL,R,
RR;BENGALI RUPEE=MARK,SIGN;BENGALI SANDHI=MARK;BENGALI SIGN=ANUSVARA,AVAGRAHA,CANDRABINDU,NUKTA,
VIRAMA,VISARGA;BENGALI VOWEL SIGN=AA,AI,AU,E,I,II,O,U,UU;BENGALI VOWEL SIGN VOCALIC=L,LL,R,RR;
BENT ARROW POINTING DOWNWARDS THEN NORTH=EAST;BENTO=BOX;BENZENE=RING;BENZENE RING WITH=CIRCLE;
BET=SYMBOL;BEVERAGE=BOX;BHAIKSUKI=DANDA;BHAIKSUKI DIGIT=EIGHT,FIVE,FOUR,NINE,ONE,SEVEN,SIX,THREE,
TWO,ZERO;BHAIKSUKI DOUBLE=DANDA;BHAIKSUKI GAP=FILLER-1,FILLER-2;BHAIKSUKI HUNDREDS UNIT=MARK;
BHAIKSUKI LETTER=A,AA,AI,AU,BA,BHA,CA,CHA,DA,DDA,DDHA,DHA,E,GA,GHA,HA,I,II,JA,JHA,KA,KHA,LA,MA,NA,
NGA,NNA,NYA,O,PA,PHA,RA,SA,SHA,SSA,TA,THA,TTA,TTHA,U,UU,VA,YA;BHAIKSUKI LETTER VOCALIC=L,R,RR;
BHAIKSUKI NUMBER=EIGHT,EIGHTY,FIFTY,FIVE,FORTY,FOUR,NINE,NINETY,ONE,SEVEN,SEVENTY,SIX,SIXTY,TEN,
THIRTY,THREE,TWENTY,TWO;BHAIKSUKI SIGN=ANUSVARA,AVAGRAHA,CANDRABINDU,VIRAMA,VISARGA;
BHAIKSUKI VOWEL SIGN=AA,AI,AU,E,I,II,O,U,UU;BHAIKSUKI VOWEL SIGN VOCALIC=L,R,RR;
BHAIKSUKI WORD=SEPARATOR;BIG=SOLIDUS;BIG REVERSE=SOLIDUS;BILLED=CAP;BIOHAZARD=SIGN;BIRTHDAY=CAKE;
BITCOIN=SIGN;BITING=LIP;BLACK=BOWTIE,CIRCLE,DIAMOND,DROPLET,FLAG,FLORETTE,FOLDER,HEART,HEXAGON,
HOURGLASS,LOZENGE,NIB,OCTAGON,PARALLELOGRAM,PENNANT,PENTAGON,PUSHPIN,RECTANGLE,ROSETTE,SCISSORS,
SNOWMAN,SQUARE,STAR,TELEPHONE,TRUCK;BLACK CENTRE WHITE=STAR;BLACK CHESS=BISHOP,EQUIHOPPER,KING,
KNIGHT,KNIGHT-BISHOP,KNIGHT-QUEEN,KNIGHT-ROOK,PAWN,QUEEN,ROOK;
BLACK CHESS BISHOP ROTATED NINETY=DEGREES;BLACK CHESS BISHOP ROTATED TWO HUNDRED SEVENTY=DEGREES;
BLACK CHESS EQUIHOPPER ROTATED NINETY=DEGREES;BLACK CHESS KING ROTATED NINETY=DEGREES;
BLACK CHESS KING ROTATED TWO HUNDRED SEVENTY=DEGREES;BLACK CHESS KNIGHT ROTATED FORTY-FIVE=DEGREES;
BLACK CHESS KNIGHT ROTATED NINETY=DEGREES;
BLACK CHESS KNIGHT ROTATED ONE HUNDRED THIRTY-FIVE=DEGREES;
BLACK CHESS KNIGHT ROTATED THREE HUNDRED FIFTEEN=DEGREES;
BLACK CHESS KNIGHT ROTATED TWO HUNDRED SEVENTY=DEGREES;
BLACK CHESS KNIGHT ROTATED TWO HUNDRED TWENTY-FIVE=DEGREES;BLACK CHESS PAWN ROTATED NINETY=DEGREES;
BLACK CHESS PAWN ROTATED TWO HUNDRED SEVENTY=DEGREES;BLACK CHESS QUEEN ROTATED NINETY=DEGREES;
BLACK CHESS QUEEN ROTATED TWO HUNDRED SEVENTY=DEGREES;BLACK CHESS ROOK ROTATED NINETY=DEGREES;
BLACK CHESS ROOK ROTATED TWO HUNDRED SEVENTY=DEGREES;BLACK CHESS TURNED=BISHOP,KING,KNIGHT,PAWN,
QUEEN,ROOK;BLACK CIRCLE FOR=RECORD;BLACK CIRCLE WITH DOWN=ARROW;BLACK CIRCLE WITH TWO WHITE=DOTS;
BLACK CIRCLE WITH WHITE DOT=RIGHT;BLACK CLUB=SUIT;BLACK CROSS ON=SHIELD;
BLACK CURVED DOWNWARDS AND LEFTWARDS=ARROW;BLACK CURVED DOWNWARDS AND RIGHTWARDS=ARROW;
BLACK CURVED LEFTWARDS AND DOWNWARDS=ARROW;BLACK CURVED LEFTWARDS AND UPWARDS=ARROW;
BLACK CURVED RIGHTWARDS AND DOWNWARDS=ARROW;BLACK CURVED RIGHTWARDS AND UPWARDS=ARROW;
BLACK CURVED UPWARDS AND LEFTWARDS=ARROW;BLACK CURVED UPWARDS AND RIGHTWARDS=ARROW;
BLACK DIAMOND=CENTRED,SUIT;BLACK DIAMOND MINUS WHITE=X;BLACK DIAMOND ON=CROSS;
BLACK DIAMOND WITH DOWN=ARROW;BLACK DOWN POINTING BACKHAND=INDEX;BLACK DOWN-POINTING=TRIANGLE;
BLACK DOWN-POINTING DOUBLE=TRIANGLE;BLACK DOWN-POINTING ISOSCELES RIGHT=TRIANGLE;
BLACK DOWN-POINTING SMALL=TRIANGLE;BLACK DOWNWARDS EQUILATERAL=ARROWHEAD;BLACK DRAUGHTS=KING,MAN;
BLACK FOUR POINTED=STAR;BLACK HARD SHELL FLOPPY=DISK;BLACK HEART=SUIT;BLACK HORIZONTAL=ELLIPSE;
BLACK LARGE=CIRCLE,SQUARE;BLACK LEFT LANE=MERGE;BLACK LEFT POINTING=INDEX;
BLACK LEFT POINTING BACKHAND=INDEX;BLACK LEFT-POINTING=POINTER,TRIANGLE;
BLACK LEFT-POINTING DOUBLE=TRIANGLE;BLACK LEFT-POINTING DOUBLE TRIANGLE WITH VERTICAL=BAR;
BLACK LEFT-POINTING ISOSCELES RIGHT=TRIANGLE;BLACK LEFT-POINTING SMALL=TRIANGLE;
BLACK LEFTWARDS=BULLET;BLACK LEFTWARDS EQUILATERAL=ARROWHEAD;BLACK LOWER LEFT=TRIANGLE;
BLACK LOWER RIGHT=TRIANGLE;BLACK MEDIUM=DIAMOND,LOZENGE,SQUARE;BLACK MEDIUM DOWN-POINTING=TRIANGLE;
BLACK MEDIUM DOWN-POINTING TRIANGLE=CENTRED;BLACK MEDIUM LEFT-POINTING=TRIANGLE;
BLACK MEDIUM LEFT-POINTING TRIANGLE=CENTRED;BLACK MEDIUM RIGHT-POINTING=TRIANGLE;
BLACK MEDIUM RIGHT-POINTING TRIANGLE=CENTRED;BLACK MEDIUM SMALL=DIAMOND,LOZENGE,SQUARE;
BLACK MEDIUM UP-POINTING=TRIANGLE;BLACK MEDIUM UP-POINTING TRIANGLE=CENTRED;BLACK MOON=LILITH;
BLACK QUESTION MARK=ORNAMENT;BLACK RIGHT POINTING=INDEX;BLACK RIGHT POINTING BACKHAND=INDEX;
BLACK RIGHT-POINTING=PENTAGON,POINTER,TRIANGLE;BLACK RIGHT-POINTING DOUBLE=TRIANGLE;
BLACK RIGHT-POINTING DOUBLE TRIANGLE WITH VERTICAL=BAR;
BLACK RIGHT-POINTING ISOSCELES RIGHT=TRIANGLE;BLACK RIGHT-POINTING SMALL=TRIANGLE;
BLACK RIGHT-POINTING TRIANGLE WITH DOUBLE VERTICAL=BAR;BLACK RIGHTWARDS=ARROW,ARROWHEAD,BULLET;
BLACK RIGHTWARDS EQUILATERAL=ARROWHEAD;BLACK SAFETY=SCISSORS;BLACK SHOGI=PIECE;
BLACK SKULL AND=CROSSBONES;BLACK SLIGHTLY SMALL=CIRCLE,SQUARE;BLACK SMALL=DIAMOND,LOZENGE,SQUARE,
STAR;BLACK SMILING=FACE;BLACK SPADE=SUIT;BLACK SQUARE=BUTTON,CENTRED;BLACK SQUARE FOR=STOP;
BLACK SUN WITH=RAYS;BLACK TINY=DIAMOND,LOZENGE,SQUARE;BLACK TOUCHTONE=TELEPHONE;
BLACK TWO-WAY LEFT WAY=TRAFFIC;BLACK UNIVERSAL RECYCLING=SYMBOL;BLACK UP POINTING BACKHAND=INDEX;
BLACK UP-POINTING=TRIANGLE;BLACK UP-POINTING DOUBLE=TRIANGLE;
BLACK UP-POINTING ISOSCELES RIGHT=TRIANGLE;BLACK UP-POINTING SMALL=TRIANGLE;
BLACK UPPER LEFT=TRIANGLE;BLACK UPPER RIGHT=TRIANGLE;BLACK UPWARDS EQUILATERAL=ARROWHEAD;
BLACK VERTICAL=ELLIPSE,RECTANGLE;BLACK VERY SMALL=DIAMOND,LOZENGE,SQUARE;
BLACK-FEATHERED NORTH EAST=ARROW;BLACK-FEATHERED RIGHTWARDS=ARROW;BLACK-FEATHERED SOUTH EAST=ARROW;
BLACK-LETTER CAPITAL=C,H,I,R,Z;BLANK=SYMBOL;BLOCK=SEXTANT-1,SEXTANT-12,SEXTANT-123,SEXTANT-1234,
SEXTANT-12345,SEXTANT-12346,SEXTANT-1235,SEXTANT-12356,SEXTANT-1236,SEXTANT-124,SEXTANT-1245,
SEXTANT-12456,SEXTANT-1246,SEXTANT-125,SEXTANT-1256,SEXTANT-126,SEXTANT-13,SEXTANT-134,
SEXTANT-1345,SEXTANT-13456,SEXTANT-1346,SEXTANT-1356,SEXTANT-136,SEXTANT-14,SEXTANT-145,
SEXTANT-1456,SEXTANT-146,SEXTANT-15,SEXTANT-156,SEXTANT-16,SEXTANT-2,SEXTANT-23,SEXTANT-234,
SEXTANT-2345,SEXTANT-23456,SEXTANT-2346,SEXTANT-235,SEXTANT-2356,SEXTANT-236,SEXTANT-24,
SEXTANT-245,SEXTANT-2456,SEXTANT-25,SEXTANT-256,SEXTANT-26,SEXTANT-3,SEXTANT-34,SEXTANT-345,
SEXTANT-3456,SEXTANT-346,SEXTANT-35,SEXTANT-356,SEXTANT-36,SEXTANT-4,SEXTANT-45,SEXTANT-456,
SEXTANT-46,SEXTANT-5,SEXTANT-56,SEXTANT-6;BLUE=BOOK,HEART;BOLD=SALTIRE;BOLD EIGHT SPOKED=ASTERISK;
BOLD FIVE SPOKED=ASTERISK;BOLD GREEK=CROSS;BOLD SIX SPOKED=ASTERISK;BOLD WHITE=CIRCLE,SQUARE;
BOOKMARK=TABS;BOPOMOFO FINAL LETTER=G,H,K,P,T;BOPOMOFO LETTER=A,AH,AI,AINN,AM,AN,ANG,ANN,AU,AUNN,B,
BU,C,CH,D,E,EE,EH,EI,EN,ENG,ENN,ER,F,G,GH,GN,GU,GW,H,I,IH,IM,INN,INNN,IR,IU,J,JI,K,KW,L,LH,M,N,NG,
NGG,NN,O,OE,OM,ONG,ONN,OO,OU,P,Q,R,S,SH,T,U,UNN,V,X,Z,ZH,ZI,ZY;BOPOMOFO LETTER O WITH DOT=ABOVE;
BOTTLE WITH POPPING=CORK;BOTTOM=PARENTHESIS;BOTTOM ARC ANTICLOCKWISE=ARROW;BOTTOM CURLY=BRACKET;
BOTTOM HALF=INTEGRAL;BOTTOM HALF BLACK=CIRCLE;BOTTOM HALF LEFT=PARENTHESIS;
BOTTOM HALF RIGHT=PARENTHESIS;BOTTOM LEFT=CORNER,CROP;BOTTOM LEFT HALF=BRACKET;BOTTOM RIGHT=CORNER,
CROP;BOTTOM RIGHT HALF=BRACKET;BOTTOM SQUARE=BRACKET;BOTTOM SQUARE BRACKET OVER TOP SQUARE=BRACKET;
BOTTOM TORTOISE SHELL=BRACKET;BOUQUET OF=FLOWERS;BOW AND=ARROW;BOWL OF=HYGIEIA;BOWL WITH=SPOON;
BOWTIE WITH LEFT HALF=BLACK;BOWTIE WITH RIGHT HALF=BLACK;BOX DRAWINGS DOUBLE=HORIZONTAL,VERTICAL;
BOX DRAWINGS DOUBLE DOWN AND=HORIZONTAL,LEFT,RIGHT;BOX DRAWINGS DOUBLE UP AND=HORIZONTAL,LEFT,
RIGHT;BOX DRAWINGS DOUBLE VERTICAL AND=HORIZONTAL,LEFT,RIGHT;
BOX DRAWINGS DOWN DOUBLE AND HORIZONTAL=SINGLE;BOX DRAWINGS DOWN DOUBLE AND LEFT=SINGLE;
BOX DRAWINGS DOWN DOUBLE AND RIGHT=SINGLE;BOX DRAWINGS DOWN HEAVY AND HORIZONTAL=LIGHT;
BOX DRAWINGS DOWN HEAVY AND LEFT=LIGHT;BOX DRAWINGS DOWN HEAVY AND LEFT UP=LIGHT;
BOX DRAWINGS DOWN HEAVY AND RIGHT=LIGHT;BOX DRAWINGS DOWN HEAVY AND RIGHT UP=LIGHT;
BOX DRAWINGS DOWN HEAVY AND UP HORIZONTAL=LIGHT;BOX DRAWINGS DOWN LIGHT AND HORIZONTAL=HEAVY;
BOX DRAWINGS DOWN LIGHT AND LEFT=HEAVY;BOX DRAWINGS DOWN LIGHT AND LEFT UP=HEAVY;
BOX DRAWINGS DOWN LIGHT AND RIGHT=HEAVY;BOX DRAWINGS DOWN LIGHT AND RIGHT UP=HEAVY;
BOX DRAWINGS DOWN LIGHT AND UP HORIZONTAL=HEAVY;BOX DRAWINGS DOWN SINGLE AND HORIZONTAL=DOUBLE;
BOX DRAWINGS DOWN SINGLE AND LEFT=DOUBLE;BOX DRAWINGS DOWN SINGLE AND RIGHT=DOUBLE;
BOX DRAWINGS HEAVY=DOWN,HORIZONTAL,LEFT,RIGHT,UP,VERTICAL;
BOX DRAWINGS HEAVY DOUBLE DASH=HORIZONTAL,VERTICAL;BOX DRAWINGS HEAVY DOWN AND=HORIZONTAL,LEFT,
RIGHT;BOX DRAWINGS HEAVY LEFT AND LIGHT=RIGHT;BOX DRAWINGS HEAVY QUADRUPLE DASH=HORIZONTAL,
VERTICAL;BOX DRAWINGS HEAVY TRIPLE DASH=HORIZONTAL,VERTICAL;BOX DRAWINGS HEAVY UP AND=HORIZONTAL,
LEFT,RIGHT;BOX DRAWINGS HEAVY UP AND LIGHT=DOWN;BOX DRAWINGS HEAVY VERTICAL AND=HORIZONTAL,LEFT,
RIGHT;BOX DRAWINGS LEFT DOWN HEAVY AND RIGHT UP=LIGHT;BOX DRAWINGS LEFT HEAVY AND RIGHT DOWN=LIGHT;
BOX DRAWINGS LEFT HEAVY AND RIGHT UP=LIGHT;BOX DRAWINGS LEFT HEAVY AND RIGHT VERTICAL=LIGHT;
BOX DRAWINGS LEFT LIGHT AND RIGHT DOWN=HEAVY;BOX DRAWINGS LEFT LIGHT AND RIGHT UP=HEAVY;
BOX DRAWINGS LEFT LIGHT AND RIGHT VERTICAL=HEAVY;BOX DRAWINGS LEFT UP HEAVY AND RIGHT DOWN=LIGHT;
BOX DRAWINGS LIGHT=DOWN,HORIZONTAL,LEFT,RIGHT,UP,VERTICAL;BOX DRAWINGS LIGHT ARC DOWN AND=LEFT,
RIGHT;BOX DRAWINGS LIGHT ARC UP AND=LEFT,RIGHT;BOX DRAWINGS LIGHT DIAGONAL=CROSS,DIAMOND;
BOX DRAWINGS LIGHT DIAGONAL MIDDLE LEFT TO LOWER=CENTRE;
BOX DRAWINGS LIGHT DIAGONAL MIDDLE LEFT TO LOWER CENTRE TO MIDDLE=RIGHT;
BOX DRAWINGS LIGHT DIAGONAL MIDDLE LEFT TO UPPER CENTRE TO MIDDLE=RIGHT;
BOX DRAWINGS LIGHT DIAGONAL MIDDLE LEFT TO UPPER CENTRE TO MIDDLE RIGHT TO LOWER=CENTRE;
BOX DRAWINGS LIGHT DIAGONAL MIDDLE RIGHT TO LOWER=CENTRE;
BOX DRAWINGS LIGHT DIAGONAL MIDDLE RIGHT TO UPPER CENTRE TO MIDDLE LEFT TO LOWER=CENTRE;
BOX DRAWINGS LIGHT DIAGONAL UPPER CENTRE TO MIDDLE=LEFT,RIGHT;
BOX DRAWINGS LIGHT DIAGONAL UPPER CENTRE TO MIDDLE LEFT AND MIDDLE RIGHT TO LOWER=CENTRE;
BOX DRAWINGS LIGHT DIAGONAL UPPER CENTRE TO MIDDLE LEFT TO LOWER=CENTRE;
BOX DRAWINGS LIGHT DIAGONAL UPPER CENTRE TO MIDDLE LEFT TO LOWER CENTRE TO MIDDLE=RIGHT;
BOX DRAWINGS LIGHT DIAGONAL UPPER CENTRE TO MIDDLE RIGHT AND MIDDLE LEFT TO LOWER=CENTRE;
BOX DRAWINGS LIGHT DIAGONAL UPPER CENTRE TO MIDDLE RIGHT TO LOWER=CENTRE;
BOX DRAWINGS LIGHT DIAGONAL UPPER CENTRE TO MIDDLE RIGHT TO LOWER CENTRE TO MIDDLE=LEFT;
BOX DRAWINGS LIGHT DIAGONAL UPPER LEFT TO LOWER=RIGHT;
BOX DRAWINGS LIGHT DIAGONAL UPPER RIGHT TO LOWER=LEFT;BOX DRAWINGS LIGHT DOUBLE DASH=HORIZONTAL,
VERTICAL;BOX DRAWINGS LIGHT DOWN AND=HORIZONTAL,LEFT,RIGHT;
BOX DRAWINGS LIGHT HORIZONTAL WITH VERTICAL=STROKE;BOX DRAWINGS LIGHT LEFT AND HEAVY=RIGHT;
BOX DRAWINGS LIGHT QUADRUPLE DASH=HORIZONTAL,VERTICAL;BOX DRAWINGS LIGHT TRIPLE DASH=HORIZONTAL,
VERTICAL;BOX DRAWINGS LIGHT UP AND=HORIZONTAL,LEFT,RIGHT;BOX DRAWINGS LIGHT UP AND HEAVY=DOWN;
BOX DRAWINGS LIGHT VERTICAL AND=HORIZONTAL,LEFT,RIGHT;
BOX DRAWINGS RIGHT DOWN HEAVY AND LEFT UP=LIGHT;BOX DRAWINGS RIGHT HEAVY AND LEFT DOWN=LIGHT;
BOX DRAWINGS RIGHT HEAVY AND LEFT UP=LIGHT;BOX DRAWINGS RIGHT HEAVY AND LEFT VERTICAL=LIGHT;
BOX DRAWINGS RIGHT LIGHT AND LEFT DOWN=HEAVY;BOX DRAWINGS RIGHT LIGHT AND LEFT UP=HEAVY;
BOX DRAWINGS RIGHT LIGHT AND LEFT VERTICAL=HEAVY;BOX DRAWINGS RIGHT UP HEAVY AND LEFT DOWN=LIGHT;
BOX DRAWINGS UP DOUBLE AND HORIZONTAL=SINGLE;BOX DRAWINGS UP DOUBLE AND LEFT=SINGLE;
BOX DRAWINGS UP DOUBLE AND RIGHT=SINGLE;BOX DRAWINGS UP HEAVY AND DOWN HORIZONTAL=LIGHT;
BOX DRAWINGS UP HEAVY AND HORIZONTAL=LIGHT;BOX DRAWINGS UP HEAVY AND LEFT=LIGHT;
BOX DRAWINGS UP HEAVY AND LEFT DOWN=LIGHT;BOX DRAWINGS UP HEAVY AND RIGHT=LIGHT;
BOX DRAWINGS UP HEAVY AND RIGHT DOWN=LIGHT;BOX DRAWINGS UP LIGHT AND DOWN HORIZONTAL=HEAVY;
BOX DRAWINGS UP LIGHT AND HORIZONTAL=HEAVY;BOX DRAWINGS UP LIGHT AND LEFT=HEAVY;
BOX DRAWINGS UP LIGHT AND LEFT DOWN=HEAVY;BOX DRAWINGS UP LIGHT AND RIGHT=HEAVY;
BOX DRAWINGS UP LIGHT AND RIGHT DOWN=HEAVY;BOX DRAWINGS UP SINGLE AND HORIZONTAL=DOUBLE;
BOX DRAWINGS UP SINGLE AND LEFT=DOUBLE;BOX DRAWINGS UP SINGLE AND RIGHT=DOUBLE;
BOX DRAWINGS VERTICAL DOUBLE AND HORIZONTAL=SINGLE;BOX DRAWINGS VERTICAL DOUBLE AND LEFT=SINGLE;
BOX DRAWINGS VERTICAL DOUBLE AND RIGHT=SINGLE;BOX DRAWINGS VERTICAL HEAVY AND HORIZONTAL=LIGHT;
BOX DRAWINGS VERTICAL HEAVY AND LEFT=LIGHT;BOX DRAWINGS VERTICAL HEAVY AND RIGHT=LIGHT;
BOX DRAWINGS VERTICAL LIGHT AND HORIZONTAL=HEAVY;BOX DRAWINGS VERTICAL LIGHT AND LEFT=HEAVY;
BOX DRAWINGS VERTICAL LIGHT AND RIGHT=HEAVY;BOX DRAWINGS VERTICAL SINGLE AND HORIZONTAL=DOUBLE;
BOX DRAWINGS VERTICAL SINGLE AND LEFT=DOUBLE;BOX DRAWINGS VERTICAL SINGLE AND RIGHT=DOUBLE;
BOXING=GLOVE;BOYS=SYMBOL;BRAHMI=DANDA,VIRAMA;BRAHMI DIGIT=EIGHT,FIVE,FOUR,NINE,ONE,SEVEN,SIX,THREE,
TWO,ZERO;BRAHMI DOUBLE=DANDA;BRAHMI LETTER=A,AA,AI,AU,BA,BHA,CA,CHA,DA,DDA,DDHA,DHA,E,GA,GHA,HA,I,
II,JA,JHA,KA,KHA,LA,LLA,MA,NA,NGA,NNA,NYA,O,PA,PHA,RA,SA,SHA,SSA,TA,THA,TTA,TTHA,U,UU,VA,YA;
BRAHMI LETTER OLD TAMIL=LLA,LLLA,NNNA,RRA;BRAHMI LETTER OLD TAMIL SHORT=E,O;
BRAHMI LETTER VOCALIC=L,LL,R,RR;BRAHMI NUMBER=EIGHT,EIGHTY,FIFTY,FIVE,FORTY,FOUR,JOINER,NINE,
NINETY,ONE,SEVEN,SEVENTY,SIX,SIXTY,TEN,THIRTY,THREE,TWENTY,TWO;BRAHMI NUMBER ONE=HUNDRED,THOUSAND;
BRAHMI PUNCTUATION=DOT,LINE,LOTUS;BRAHMI PUNCTUATION CRESCENT=BAR;BRAHMI PUNCTUATION DOUBLE=DOT;
BRAHMI SIGN=ANUSVARA,CANDRABINDU,JIHVAMULIYA,UPADHMANIYA,VISARGA;BRAHMI SIGN OLD TAMIL=VIRAMA;
BRAHMI VOWEL SIGN=AA,AI,AU,E,I,II,O,U,UU;BRAHMI VOWEL SIGN BHATTIPROLU=AA;
BRAHMI VOWEL SIGN OLD TAMIL SHORT=E,O;BRAHMI VOWEL SIGN VOCALIC=L,LL,R,RR;BRAILLE PATTERN=BLANK,
DOTS-1,DOTS-12,DOTS-123,DOTS-1234,DOTS-12345,DOTS-123456,DOTS-1234567,DOTS-12345678,DOTS-1234568,
DOTS-123457,DOTS-1234578,DOTS-123458,DOTS-12346,DOTS-123467,DOTS-1234678,DOTS-123468,DOTS-12347,
DOTS-123478,DOTS-12348,DOTS-1235,DOTS-12356,DOTS-123567,DOTS-1235678,DOTS-123568,DOTS-12357,
DOTS-123578,DOTS-12358,DOTS-1236,DOTS-12367,DOTS-123678,DOTS-12368,DOTS-1237,DOTS-12378,DOTS-1238,
DOTS-124,DOTS-1245,DOTS-12456,DOTS-124567,DOTS-1245678,DOTS-124568,DOTS-12457,DOTS-124578,
DOTS-12458,DOTS-1246,DOTS-12467,DOTS-124678,DOTS-12468,DOTS-1247,DOTS-12478,DOTS-1248,DOTS-125,
DOTS-1256,DOTS-12567,DOTS-125678,DOTS-12568,DOTS-1257,DOTS-12578,DOTS-1258,DOTS-126,DOTS-1267,
DOTS-12678,DOTS-1268,DOTS-127,DOTS-1278,DOTS-128,DOTS-13,DOTS-134,DOTS-1345,DOTS-13456,DOTS-134567,
DOTS-1345678,DOTS-134568,DOTS-13457,DOTS-134578,DOTS-13458,DOTS-1346,DOTS-13467,DOTS-134678,
DOTS-13468,DOTS-1347,DOTS-13478,DOTS-1348,DOTS-135,DOTS-1356,DOTS-13567,DOTS-135678,DOTS-13568,
DOTS-1357,DOTS-13578,DOTS-1358,DOTS-136,DOTS-1367,DOTS-13678,DOTS-1368,DOTS-137,DOTS-1378,DOTS-138,
DOTS-14,DOTS-145,DOTS-1456,DOTS-14567,DOTS-145678,DOTS-14568,DOTS-1457,DOTS-14578,DOTS-1458,
DOTS-146,DOTS-1467,DOTS-14678,DOTS-1468,DOTS-147,DOTS-1478,DOTS-148,DOTS-15,DOTS-156,DOTS-1567,
DOTS-15678,DOTS-1568,DOTS-157,DOTS-1578,DOTS-158,DOTS-16,DOTS-167,DOTS-1678,DOTS-168,DOTS-17,
DOTS-178,DOTS-18,DOTS-2,DOTS-23,DOTS-234,DOTS-2345,DOTS-23456,DOTS-234567,DOTS-2345678,DOTS-234568,
DOTS-23457,DOTS-234578,DOTS-23458,DOTS-2346,DOTS-23467,DOTS-234678,DOTS-23468,DOTS-2347,DOTS-23478,
DOTS-2348,DOTS-235,DOTS-2356,DOTS-23567,DOTS-235678,DOTS-23568,DOTS-2357,DOTS-23578,DOTS-2358,
DOTS-236,DOTS-2367,DOTS-23678,DOTS-2368,DOTS-237,DOTS-2378,DOTS-238,DOTS-24,DOTS-245,DOTS-2456,
DOTS-24567,DOTS-245678,DOTS-24568,DOTS-2457,DOTS-24578,DOTS-2458,DOTS-246,DOTS-2467,DOTS-24678,
DOTS-2468,DOTS-247,DOTS-2478,DOTS-248,DOTS-25,DOTS-256,DOTS-2567,DOTS-25678,DOTS-2568,DOTS-257,
DOTS-2578,DOTS-258,DOTS-26,DOTS-267,DOTS-2678,DOTS-268,DOTS-27,DOTS-278,DOTS-28,DOTS-3,DOTS-34,
DOTS-345,DOTS-3456,DOTS-34567,DOTS-345678,DOTS-34568,DOTS-3457,DOTS-34578,DOTS-3458,DOTS-346,
DOTS-3467,DOTS-34678,DOTS-3468,DOTS-347,DOTS-3478,DOTS-348,DOTS-35,DOTS-356,DOTS-3567,DOTS-35678,
DOTS-3568,DOTS-357,DOTS-3578,DOTS-358,DOTS-36,DOTS-367,DOTS-3678,DOTS-368,DOTS-37,DOTS-378,DOTS-38,
DOTS-4,DOTS-45,DOTS-456,DOTS-4567,DOTS-45678,DOTS-4568,DOTS-457,DOTS-4578,DOTS-458,DOTS-46,
DOTS-467,DOTS-4678,DOTS-468,DOTS-47,DOTS-478,DOTS-48,DOTS-5,DOTS-56,DOTS-567,DOTS-5678,DOTS-568,
DOTS-57,DOTS-578,DOTS-58,DOTS-6,DOTS-67,DOTS-678,DOTS-68,DOTS-7,DOTS-78,DOTS-8;
BREAK PERMITTED=HERE;BRIDE WITH=VEIL;BRIDGE AT=NIGHT;BROKEN=BAR,HEART;
BROKEN CIRCLE WITH NORTHWEST=ARROW;BROWN=HEART;BUBBLE=TEA;BUGINESE=PALLAWA;BUGINESE END OF=SECTION;
BUGINESE LETTER=A,BA,CA,DA,GA,HA,JA,KA,LA,MA,MPA,NA,NGA,NGKA,NRA,NYA,NYCA,PA,RA,SA,TA,VA,YA;
BUGINESE VOWEL SIGN=AE,E,I,O,U;BUHID LETTER=A,BA,DA,GA,HA,I,KA,LA,MA,NA,NGA,PA,RA,SA,TA,U,WA,YA;
BUHID VOWEL SIGN=I,U;BUILDING=CONSTRUCTION;BULLET=OPERATOR;BULLHORN WITH SOUND=WAVES;BUS=STOP;
BUST IN=SILHOUETTE;BUSTS IN=SILHOUETTE;BYTE ORDER=MARK;BYZANTINE MUSICAL SYMBOL=ANATRICHISMA,
ANTIKENOKYLISMA,ANTIKENOMA,APLI,APOSTROFOS,APOTHEMA,ARGON,ARGOSYNTHETON,CHAMILI,CHAMILON,DASEIA,
DIARGON,DIGORGON,DIPLI,DYO,EKSTREPTON,ELAFRON,ENDOFONON,EPEGERMA,GORGOSYNTHETON,GRONTHISMATA,
ICHADIN,IMIDIARGON,IMIFONON,IMIFTHORA,IMIFTHORON,KATAVASMA,KATHISTI,KENTIMATA,KLASMA,KONTEVMA,
KORONIS,KOUFISMA,KRATIMATA,KRATIMOKOUFISMA,KRATIMOYPORROON,KREMASTI,KYLISMA,LEMOI,LYGISMA,NANA,
OMALON,PARAKLITIKI,PARICHON,PELASTON,PERISPOMENI,PETASMA,PETASTI,PETASTOKOUFISMA,PSIFISTOLYGISMA,
PSIFISTON,PSIFISTOPARAKALESMA,PSIFISTOSYNAGMA,PSILI,PSILON,RAPISMA,REVMA,SAXIMATA,SEISMA,STAVROS,
STIGMA,STRAGGISMATA,SYNEVMA,SYRMA,SYRMATIKI,TELEIA,TESSERA,TETRAPLI,THEMA,THITA,TINAGMA,TRIA,
TRIGORGON,TRIPLI,TROMIKOLYGISMA,TROMIKOPARAKALESMA,TROMIKOPSIFISTON,TROMIKOSYNAGMA,VATHY,YPOKRISIS,
YPORROI,YPSILI;BYZANTINE MUSICAL SYMBOL AGOGI=ARGI,ARGOTERI,GORGI,GORGOTERI,MESI,METRIA;
BYZANTINE MUSICAL SYMBOL AGOGI POLI=ARGI,GORGI;BYZANTINE MUSICAL SYMBOL APESO=EKFONITIKON;
BYZANTINE MUSICAL SYMBOL APESO EXO=NEO;BYZANTINE MUSICAL SYMBOL APODERMA=ARCHAION,NEO;
BYZANTINE MUSICAL SYMBOL APOSTROFOI SYNDESMOS=NEO;
BYZANTINE MUSICAL SYMBOL APOSTROFOI TELOUS=ICHIMATOS;BYZANTINE MUSICAL SYMBOL APOSTROFOS=DIPLI,NEO;
BYZANTINE MUSICAL SYMBOL ARKTIKO=DI,GA,KE,NI,PA,VOU,ZO;BYZANTINE MUSICAL SYMBOL CHOREVMA=ARCHAION,
NEO;BYZANTINE MUSICAL SYMBOL CHROA=KLITON,SPATHI,ZYGOS;BYZANTINE MUSICAL SYMBOL DIASTOLI=DIPLI,
THESEOS;BYZANTINE MUSICAL SYMBOL DIASTOLI APLI=MEGALI,MIKRI;
BYZANTINE MUSICAL SYMBOL DIESIS=TETARTIMORION,TRITIMORION;
BYZANTINE MUSICAL SYMBOL DIESIS APLI DYO=DODEKATA;
BYZANTINE MUSICAL SYMBOL DIESIS DIGRAMMOS EX=DODEKATA;
BYZANTINE MUSICAL SYMBOL DIESIS MONOGRAMMOS TESSERA=DODEKATA;
BYZANTINE MUSICAL SYMBOL DIESIS TRIGRAMMOS OKTO=DODEKATA;BYZANTINE MUSICAL SYMBOL DIFTOGGOS=OU;
BYZANTINE MUSICAL SYMBOL DIGORGON PARESTIGMENON=DEXIA;
BYZANTINE MUSICAL SYMBOL DIGORGON PARESTIGMENON ARISTERA=ANO,KATO;
BYZANTINE MUSICAL SYMBOL DIGRAMMA=GG;BYZANTINE MUSICAL SYMBOL DIPLI=ARCHAION;
BYZANTINE MUSICAL SYMBOL ENARXIS KAI FTHORA=VOU;BYZANTINE MUSICAL SYMBOL ETERON=ARGOSYNTHETON,
PARAKALESMA;BYZANTINE MUSICAL SYMBOL EXO=EKFONITIKON;BYZANTINE MUSICAL SYMBOL FANEROSIS=DIFONIAS,
MONOFONIAS,TETRAFONIAS;BYZANTINE MUSICAL SYMBOL FHTORA SKLIRON CHROMA=VASIS;
BYZANTINE MUSICAL SYMBOL FTHORA=ARCHAION,NENANO;
BYZANTINE MUSICAL SYMBOL FTHORA ARCHAION DEYTEROU=ICHOU;
BYZANTINE MUSICAL SYMBOL FTHORA DIATONIKI=DI,KE,NANA,PA,ZO;
BYZANTINE MUSICAL SYMBOL FTHORA DIATONIKI NI=ANO,KATO;
BYZANTINE MUSICAL SYMBOL FTHORA ENARMONIOS=ANTIFONIA;
BYZANTINE MUSICAL SYMBOL FTHORA I YFESIS=TETARTIMORION;
BYZANTINE MUSICAL SYMBOL FTHORA MALAKON CHROMA=DIFONIAS,MONOFONIAS;
BYZANTINE MUSICAL SYMBOL FTHORA NAOS=ICHOS;BYZANTINE MUSICAL SYMBOL FTHORA SKLIRON CHROMA=SYNAFI,
VASIS;BYZANTINE MUSICAL SYMBOL FTHORA SKLIRON DIATONON=DI;BYZANTINE MUSICAL SYMBOL GENIKI=DIESIS,
YFESIS;BYZANTINE MUSICAL SYMBOL GORGON=ARCHAION;BYZANTINE MUSICAL SYMBOL GORGON NEO=ANO,KATO;
BYZANTINE MUSICAL SYMBOL GORGON PARESTIGMENON=ARISTERA,DEXIA;
BYZANTINE MUSICAL SYMBOL GORTHMIKON N=APLOUN,DIPLOUN;
BYZANTINE MUSICAL SYMBOL ISAKIA TELOUS=ICHIMATOS;BYZANTINE MUSICAL SYMBOL ISON=ARCHAION,NEO;
BYZANTINE MUSICAL SYMBOL KATAVA=TROMIKON;BYZANTINE MUSICAL SYMBOL KENTIMA=ARCHAION;
BYZANTINE MUSICAL SYMBOL KENTIMA NEO=ANO,KATO,MESO;BYZANTINE MUSICAL SYMBOL KENTIMATA=ARCHAION;
BYZANTINE MUSICAL SYMBOL KENTIMATA NEO=ANO,KATO,MESO;BYZANTINE MUSICAL SYMBOL KLASMA=ANO,KATO;
BYZANTINE MUSICAL SYMBOL KONTEVMA=ALLO;BYZANTINE MUSICAL SYMBOL KRATIMA=ALLO,ARCHAION,NEO;
BYZANTINE MUSICAL SYMBOL LEIMMA DYO=CHRONON;BYZANTINE MUSICAL SYMBOL LEIMMA ENOS=CHRONOU;
BYZANTINE MUSICAL SYMBOL LEIMMA IMISEOS=CHRONOU;BYZANTINE MUSICAL SYMBOL LEIMMA TESSARON=CHRONON;
BYZANTINE MUSICAL SYMBOL LEIMMA TRION=CHRONON;BYZANTINE MUSICAL SYMBOL MARTYRIA=TRIFONIAS;
BYZANTINE MUSICAL SYMBOL MARTYRIA ALLI DEYTEROS=ICHOS;
BYZANTINE MUSICAL SYMBOL MARTYRIA ALLI PROTOS=ICHOS;
BYZANTINE MUSICAL SYMBOL MARTYRIA DEYTEROS=ICHOS;BYZANTINE MUSICAL SYMBOL MARTYRIA LEGETOS=ICHOS;
BYZANTINE MUSICAL SYMBOL MARTYRIA PLAGIOS=ICHOS;
BYZANTINE MUSICAL SYMBOL MARTYRIA PLAGIOS TETARTOS=ICHOS;
BYZANTINE MUSICAL SYMBOL MARTYRIA PROTOS=ICHOS;BYZANTINE MUSICAL SYMBOL MARTYRIA PROTOVARYS=ICHOS;
BYZANTINE MUSICAL SYMBOL MARTYRIA TETARTOS=ICHOS;
BYZANTINE MUSICAL SYMBOL MARTYRIA TETARTOS LEGETOS=ICHOS;
BYZANTINE MUSICAL SYMBOL MARTYRIA TRITOS=ICHOS;BYZANTINE MUSICAL SYMBOL MARTYRIA VARYS=ICHOS;
BYZANTINE MUSICAL SYMBOL MIKRON=ISON;BYZANTINE MUSICAL SYMBOL OLIGON=ARCHAION,NEO;
BYZANTINE MUSICAL SYMBOL OXEIA=DIPLI,EKFONITIKON,NEO;BYZANTINE MUSICAL SYMBOL OXEIAI=ARCHAION;
BYZANTINE MUSICAL SYMBOL OYRANISMA=ARCHAION,NEO;BYZANTINE MUSICAL SYMBOL PARAKALESMA=ARCHAION,NEO;
BYZANTINE MUSICAL SYMBOL PARAKLITIKI=ARCHAION,NEO;BYZANTINE MUSICAL SYMBOL PELASTON=NEO;
BYZANTINE MUSICAL SYMBOL PIASMA=ARCHAION,NEO;BYZANTINE MUSICAL SYMBOL PSIFISTON=NEO;
BYZANTINE MUSICAL SYMBOL SEISMA=NEO;BYZANTINE MUSICAL SYMBOL SIMANSIS=ARSEOS,THESEOS;
BYZANTINE MUSICAL SYMBOL SIMANSIS ARSEOS=DISIMOU,TETRASIMOU,TRISIMOU;
BYZANTINE MUSICAL SYMBOL SIMANSIS THESEOS=DISIMOU,TETRASIMOU,TRISIMOU;
BYZANTINE MUSICAL SYMBOL STAVROS=APODEXIA;BYZANTINE MUSICAL SYMBOL SYNAGMA=ARCHAION,NEO;
BYZANTINE MUSICAL SYMBOL SYNAGMA META=STAVROU;BYZANTINE MUSICAL SYMBOL THEMA=APLOUN;
BYZANTINE MUSICAL SYMBOL THEMATISMOS=ESO,EXO;BYZANTINE MUSICAL SYMBOL THES KAI=APOTHES;
BYZANTINE MUSICAL SYMBOL TROMIKON=ALLO,ARCHAION,NEO;BYZANTINE MUSICAL SYMBOL VAREIA=DIPLI,
EKFONITIKON,NEO;BYZANTINE MUSICAL SYMBOL VAREIAI=ARCHAION;BYZANTINE MUSICAL SYMBOL XIRON=KLASMA;
BYZANTINE MUSICAL SYMBOL YFEN=ANO,KATO;BYZANTINE MUSICAL SYMBOL YFESIS=TRITIMORION;
BYZANTINE MUSICAL SYMBOL YFESIS APLI DYO=DODEKATA;
BYZANTINE MUSICAL SYMBOL YFESIS DIGRAMMOS EX=DODEKATA;
BYZANTINE MUSICAL SYMBOL YFESIS MONOGRAMMOS TESSERA=DODEKATA;
BYZANTINE MUSICAL SYMBOL YFESIS TRIGRAMMOS OKTO=DODEKATA;BYZANTINE MUSICAL SYMBOL YPOKRISIS=DIPLI;
CADA=UNA;CALL ME=HAND;CAMERA WITH=FLASH;CANADIAN SYLLABICS=A,AA,AAI,AAY,AI,AN,AY,C,CA,CAA,CAAI,CE,
CI,CII,CO,COO,CWA,CWAA,CWE,CWI,CWII,CWO,CWOO,E,EN,F,FA,FAA,FAAI,FE,FI,FII,FO,FOO,FWAA,HK,HYPHEN,I,
II,IN,K,KA,KAA,KAAI,KAY,KE,KI,KII,KO,KOO,KW,KWA,KWAA,KWAY,KWE,KWI,KWII,KWO,KWOO,L,LA,LAA,LAAI,LAY,
LE,LH,LHA,LHAA,LHI,LHII,LHO,LHOO,LI,LII,LO,LOO,LWA,LWAA,LWE,LWI,LWII,LWO,LWOO,M,MA,MAA,MAAI,MAY,ME,
MH,MI,MII,MO,MOO,MWA,MWAA,MWE,MWI,MWII,MWO,MWOO,N,NA,NAA,NAAI,NAY,NE,NG,NGA,NGAA,NGAAI,NGAI,NGI,
NGII,NGO,NGOO,NH,NI,NII,NNG,NNGA,NNGAA,NNGI,NNGII,NNGO,NNGOO,NO,NOO,NOY,NWA,NWAA,NWE,NWI,NWII,NWO,
NWOO,O,ON,OO,OY,P,PA,PAA,PAAI,PAY,PE,PI,PII,PO,POO,POY,PWA,PWAA,PWE,PWI,PWII,PWO,PWOO,PWOY,Q,QA,
QAA,QAAI,QAI,QI,QII,QO,QOO,R,RA,RAA,RAAI,RAY,RE,RI,RII,RO,ROO,RWA,RWAA,RWEE,RWI,RWII,RWO,RWOO,S,SA,
SAA,SAAI,SAY,SE,SH,SHA,SHAA,SHAY,SHE,SHI,SHII,SHO,SHOO,SHOY,SHWA,SHWAA,SHWE,SHWI,SHWII,SHWO,SHWOO,
SHWOY,SI,SII,SO,SOO,SOY,SPA,SPE,SPI,SPO,SW,SWA,SWAA,SWE,SWI,SWII,SWO,SWOO,T,TA,TAA,TAAI,TAY,TE,TH,
THA,THAA,THE,THI,THII,THO,THOO,THWA,THWAA,THWE,TI,TII,TLHA,TLHE,TLHI,TLHO,TLHOO,TLHWE,TO,TOO,TTA,
TTE,TTH,TTHA,TTHAA,TTHE,TTHI,TTHO,TTHOO,TTHWE,TTI,TTO,TWA,TWAA,TWE,TWI,TWII,TWO,TWOO,TYA,TYE,TYI,
TYO,WA,WAA,WAY,WE,WI,WII,WO,WOO,Y,YA,YAA,YAAI,YAY,YE,YI,YII,YO,YOO,YOY,YWA,YWAA,YWE,YWI,YWII,YWO,
YWOO;CANADIAN SYLLABICS AIVILIK=B;CANADIAN SYLLABICS ATHAPASCAN=M,S;
CANADIAN SYLLABICS BEAVER DENE=L,R;CANADIAN SYLLABICS BIBLE-CREE=Y;CANADIAN SYLLABICS BLACKFOOT=A,
E,I,KA,KE,KI,KO,NA,NE,NI,NO,O,S,W,WA,WE,WI,WO;CANADIAN SYLLABICS CARRIER=CHA,CHE,CHEE,CHI,CHO,CHU,
DEE,DI,DLA,DLE,DLEE,DLI,DLO,DLU,DZA,DZE,DZEE,DZI,DZO,DZU,EE,GA,GAA,GE,GEE,GHA,GHE,GHEE,GHI,GHO,GHU,
GI,GO,GU,GWA,GWU,H,HEE,HI,HWA,HWE,HWEE,HWI,HWO,HWU,I,JA,JE,JEE,JI,JJA,JJE,JJEE,JJI,JJO,JJU,JO,JU,
JWA,KHA,KHE,KHEE,KHI,KHO,KHU,KK,KKA,KKE,KKEE,KKI,KKO,KKU,LA,LE,LEE,LHA,LHE,LHEE,LHI,LHO,LHU,LI,LO,
LU,MA,ME,MEE,MI,MO,MU,NA,NE,NEE,NG,NI,NO,NU,P,PA,PE,PEE,PI,PO,PU,RA,RE,REE,RI,RO,RU,SA,SE,SEE,SH,
SHA,SHE,SHEE,SHI,SHO,SHU,SI,SO,SU,THA,THE,THEE,THI,THO,THU,TLA,TLE,TLEE,TLHA,TLHE,TLHEE,TLHI,TLHO,
TLHU,TLI,TLO,TLU,TSA,TSE,TSEE,TSI,TSO,TSU,TTA,TTE,TTEE,TTI,TTO,TTSA,TTSE,TTSEE,TTSI,TTSO,TTSU,TTU,
WA,WE,WEE,WI,WO,WU,YA,YE,YEE,YI,YO,YU,Z,ZA,ZE,ZEE,ZI,ZO,ZU;CANADIAN SYLLABICS CARRIER DENE=GEE;
CANADIAN SYLLABICS CARRIER DENTAL=S;CANADIAN SYLLABICS CARRIER INITIAL=Z;
CANADIAN SYLLABICS CHI=SIGN;CANADIAN SYLLABICS EASTERN=W;CANADIAN SYLLABICS FINAL=ACUTE,GRAVE,PLUS,
RING;CANADIAN SYLLABICS FINAL BOTTOM HALF=RING;CANADIAN SYLLABICS FINAL DOUBLE=ACUTE;
CANADIAN SYLLABICS FINAL DOUBLE SHORT VERTICAL=STROKES;CANADIAN SYLLABICS FINAL DOWN=TACK;
CANADIAN SYLLABICS FINAL MIDDLE=DOT;CANADIAN SYLLABICS FINAL RAISED=DOT;
CANADIAN SYLLABICS FINAL RIGHT HALF=RING;CANADIAN SYLLABICS FINAL SHORT HORIZONTAL=STROKE;
CANADIAN SYLLABICS FINAL SMALL=RING;CANADIAN SYLLABICS FINAL TOP HALF=RING;
CANADIAN SYLLABICS FULL=STOP;CANADIAN SYLLABICS GLOTTAL=STOP;CANADIAN SYLLABICS MEDIAL=L,R;
CANADIAN SYLLABICS MOOSE-CREE=SK;CANADIAN SYLLABICS N-CREE=THE,THI,THII;
CANADIAN SYLLABICS NASKAPI=CWAA,KWAA,MWAA,NWAA,S-W,SCWA,SKW,SKWA,SPWA,STWA,SWAA,TWAA,WAA,WOO,YWAA;
CANADIAN SYLLABICS NATTILIK=HA,HAA,HI,HII,HO,HOO,SHRA,SHRAA,SHRI,SHRII,SHRO,SHROO;
CANADIAN SYLLABICS NUNAVIK=H,HA,HAA,HE,HI,HII,HO,HOO;CANADIAN SYLLABICS NUNAVUT=H;
CANADIAN SYLLABICS OJIBWAY=C,K,M,N,NWI,NWII,NWO,NWOO,P,S,SH,T;CANADIAN SYLLABICS R-CREE=RE,RWE;
CANADIAN SYLLABICS SAYISI=HA,HE,HI,HO,HOO,JI,JU,JUU,M,SHA,SHE,SHI,SHO,SHOO,SHWE,TH,YI;
CANADIAN SYLLABICS SOUTH-SLAVEY=KAH,KEH,KIH,KOH;CANADIAN SYLLABICS TH-CREE=TH,THA,THAA,THE,THI,
THII,THO,THOO;CANADIAN SYLLABICS WEST-CREE=CWA,CWAA,CWE,CWI,CWII,CWO,CWOO,FWAA,KWA,KWAA,KWE,KWI,
KWII,KWO,KWOO,L,LA,LAA,LE,LO,LOO,LWA,LWAA,LWE,LWI,LWII,LWO,LWOO,M,MWA,MWAA,MWE,MWI,MWII,MWO,MWOO,
NWA,NWAA,NWE,P,PWA,PWAA,PWE,PWI,PWII,PWO,PWOO,R,RA,RE,RI,RO,RWAA,SHWA,SHWAA,SHWE,SHWI,SHWII,SHWO,
SHWOO,SWA,SWAA,SWE,SWI,SWII,SWO,SWOO,THWAA,TWA,TWAA,TWE,TWI,TWII,TWO,TWOO,WA,WAA,WE,WI,WII,WO,WOO,
Y,YWA,YWAA,YWE,YWI,YWII,YWO,YWOO;CANADIAN SYLLABICS WESTERN=W;CANADIAN SYLLABICS WOODS-CREE=TH,THA,
THE,THI,THO,THWA,THWAA,THWEE,THWI,THWII,THWO,THWOO;CANADIAN SYLLABICS WOODS-CREE FINAL=TH;
CANADIAN SYLLABICS Y-CREE=COO,KOO,LOO,MOO,NOO,OO,POO,PWAA,SOO,TOO,W,YOO;CANCEL=CHARACTER,TAG;
CANCELLATION=X;CANNED=FOOD;CAR=SLIDING;CARD=INDEX;CARD FILE=BOX;CARD INDEX=DIVIDERS;CARE=OF;
CARET INSERTION=POINT;CARIAN LETTER=A,A2,B,C-18,C-39,D,D2,E,E2,G,G2,I,II,K,K2,L,LD,LD2,M,MB,MB2,
MB3,MB4,N,ND,NG,NN,O,P,P2,Q,R,RR,S,SH,SH2,SS,ST,ST2,T,TT,TT2,U,UU,UUU,UUU2,UUU3,UUUU,X;
CAROUSEL=HORSE;CARP=STREAMER;CARPENTRY=SAW;CARRIAGE=RETURN;CAT=FACE;CAT FACE WITH TEARS OF=JOY;
CAT FACE WITH WRY=SMILE;CAUCASIAN ALBANIAN CITATION=MARK;CAUCASIAN ALBANIAN LETTER=ALT,AOR,BET,CAR,
CAYN,CHA,CHAT,CHI,CHOY,CYAW,CYAY,DAT,DYAN,DZAY,DZYAY,EB,EYN,FAM,GHEYS,GIM,HEYT,INYA,IRB,IWN,JAYN,
JHOX,KAR,KIW,LAN,LYIT,MAQ,NOWC,ON,PEN,PIWR,QAR,QAY,RAT,SEYK,SHA,SHAK,SHOY,TAS,TIWR,TYAY,VEYZ,XEYN,
YAYD,YOWD,ZARL,ZHA,ZHIL;CAUTION=SIGN;CEDI=SIGN;CELTIC=CROSS;CENT=SIGN;CENTRE LINE=SYMBOL;
CENTRELINE=OVERLINE;CENTRELINE LOW=LINE;CHAKMA=DANDA,MAAYYAA,VIRAMA;CHAKMA AU=MARK;
CHAKMA DIGIT=EIGHT,FIVE,FOUR,NINE,ONE,SEVEN,SIX,THREE,TWO,ZERO;CHAKMA DOUBLE=DANDA;
CHAKMA LETTER=AA,BAA,BHAA,CAA,CHAA,DAA,DDAA,DDHAA,DHAA,E,GAA,GHAA,HAA,I,JAA,JHAA,KAA,KHAA,LAA,LHAA,
MAA,NAA,NGAA,NNAA,NYAA,PAA,PHAA,RAA,SAA,TAA,THAA,TTAA,TTHAA,U,VAA,WAA,YAA,YYAA;CHAKMA O=MARK;
CHAKMA QUESTION=MARK;CHAKMA SECTION=MARK;CHAKMA SIGN=ANUSVARA,CANDRABINDU,VISARGA;
CHAKMA VOWEL SIGN=A,AA,AI,AU,E,EI,I,II,O,OI,U,UU;CHAM CONSONANT SIGN=LA,RA,WA,YA;
CHAM CONSONANT SIGN FINAL=H,M,NG;CHAM DIGIT=EIGHT,FIVE,FOUR,NINE,ONE,SEVEN,SIX,THREE,TWO,ZERO;
CHAM LETTER=A,AI,BA,BBA,BHA,CHA,CHHA,DA,DDA,DHA,E,GA,GHA,HA,I,JA,JHA,KA,KHA,LA,MA,MUE,NA,NGA,NGUE,
NHA,NHJA,NHUE,NUE,O,PA,PHA,PPA,RA,SA,SSA,TA,THA,U,VA,YA;CHAM LETTER FINAL=CH,G,K,L,N,NG,P,R,SS,T,Y;
CHAM PUNCTUATION=DANDA,SPIRAL;CHAM PUNCTUATION DOUBLE=DANDA;CHAM PUNCTUATION TRIPLE=DANDA;
CHAM VOWEL SIGN=AA,AI,AU,EI,I,II,O,OE,U,UE;CHARACTER=TABULATION,TIE;CHARACTER TABULATION=SET;
CHARACTER TABULATION WITH=JUSTIFICATION;CHART WITH DOWNWARDS=TREND;CHART WITH UPWARDS=TREND;
CHART WITH UPWARDS TREND AND YEN=SIGN;CHECK=MARK;CHECKER=BOARD;CHECKER BOARD=FILL;
CHEERING=MEGAPHONE;CHEESE=WEDGE;CHEQUERED=FLAG;CHEROKEE LETTER=A,DA,DE,DI,DLA,DO,DU,DV,E,GA,GE,GI,
GO,GU,GV,HA,HE,HI,HNA,HO,HU,HV,I,KA,LA,LE,LI,LO,LU,LV,MA,ME,MI,MO,MU,MV,NA,NAH,NE,NI,NO,NU,NV,O,
QUA,QUE,QUI,QUO,QUU,QUV,S,SA,SE,SI,SO,SU,SV,TA,TE,TI,TLA,TLE,TLI,TLO,TLU,TLV,TSA,TSE,TSI,TSO,TSU,
TSV,U,V,WA,WE,WI,WO,WU,WV,YA,YE,YI,YO,YU,YV;CHEROKEE SMALL LETTER=A,DA,DE,DI,DLA,DO,DU,DV,E,GA,GE,
GI,GO,GU,GV,HA,HE,HI,HNA,HO,HU,HV,I,KA,LA,LE,LI,LO,LU,LV,MA,ME,MI,MO,MU,MV,NA,NAH,NE,NI,NO,NU,NV,O,
QUA,QUE,QUI,QUO,QUU,QUV,S,SA,SE,SI,SO,SU,SV,TA,TE,TI,TLA,TLE,TLI,TLO,TLU,TLV,TSA,TSE,TSI,TSO,TSU,
TSV,U,V,WA,WE,WI,WO,WU,WV,YA,YE,YI,YO,YU,YV;CHERRY=BLOSSOM;CHI=RHO;CHILDREN=CROSSING;CHOCOLATE=BAR;
CHORASMIAN LETTER=ALEPH,AYIN,BETH,DALETH,GIMEL,HE,HETH,KAPH,LAMEDH,MEM,NUN,PE,RESH,SAMEKH,SHIN,TAW,
WAW,YODH,ZAYIN;CHORASMIAN LETTER CURLED=WAW;CHORASMIAN LETTER SMALL=ALEPH;CHORASMIAN NUMBER=FOUR,
ONE,TEN,THREE,TWENTY,TWO;CHORASMIAN NUMBER ONE=HUNDRED;CHRISTMAS=TREE;
CIRCLE DIVIDED BY HORIZONTAL BAR AND TOP HALF DIVIDED BY VERTICAL=BAR;
CIRCLE WITH ALL BUT UPPER LEFT QUADRANT=BLACK;CIRCLE WITH HORIZONTAL=BAR;
CIRCLE WITH LEFT HALF=BLACK;CIRCLE WITH LOWER HALF=BLACK;CIRCLE WITH RIGHT HALF=BLACK;
CIRCLE WITH SMALL CIRCLE TO THE=RIGHT;CIRCLE WITH SUPERIMPOSED=X;
CIRCLE WITH TWO HORIZONTAL STROKES TO THE=RIGHT;CIRCLE WITH UPPER HALF=BLACK;
CIRCLE WITH UPPER RIGHT QUADRANT=BLACK;CIRCLE WITH VERTICAL=FILL;CIRCLED=BULLET,CC,CD,DASH,EQUALS,
GREATER-THAN,LESS-THAN,MINUS,PARALLEL,PERPENDICULAR,PLUS,SQUARE,TIMES,TRIANGLE,WZ,X;
CIRCLED ANTICLOCKWISE=ARROW;CIRCLED ANTICLOCKWISE-ROTATED DIVISION=SIGN;CIRCLED ASTERISK=OPERATOR;
CIRCLED BOLD=X;CIRCLED C WITH OVERLAID=BACKSLASH;CIRCLED CROSS=FORMEE,POMMEE;
CIRCLED CROSS FORMEE WITH FOUR=DOTS;CIRCLED CROSS FORMEE WITH TWO=DOTS;CIRCLED CROSSING=LANES;
CIRCLED DIGIT=EIGHT,FIVE,FOUR,NINE,ONE,SEVEN,SIX,THREE,TWO,ZERO;CIRCLED DIVISION=SIGN,SLASH;
CIRCLED DOLLAR SIGN WITH OVERLAID=BACKSLASH;CIRCLED DOT=OPERATOR;CIRCLED HANGUL=CHIEUCH,CIEUC,
HIEUH,IEUNG,KHIEUKH,KIYEOK,MIEUM,NIEUN,PHIEUPH,PIEUP,RIEUL,SIOS,THIEUTH,TIKEUT;
CIRCLED HANGUL CHIEUCH=A;CIRCLED HANGUL CIEUC=A;CIRCLED HANGUL HIEUH=A;CIRCLED HANGUL IEUNG=A,U;
CIRCLED HANGUL KHIEUKH=A;CIRCLED HANGUL KIYEOK=A;CIRCLED HANGUL MIEUM=A;CIRCLED HANGUL NIEUN=A;
CIRCLED HANGUL PHIEUPH=A;CIRCLED HANGUL PIEUP=A;CIRCLED HANGUL RIEUL=A;CIRCLED HANGUL SIOS=A;
CIRCLED HANGUL THIEUTH=A;CIRCLED HANGUL TIKEUT=A;CIRCLED HEAVY WHITE RIGHTWARDS=ARROW;
CIRCLED HORIZONTAL BAR WITH=NOTCH;CIRCLED HUMAN=FIGURE;CIRCLED IDEOGRAPH=ACCEPT,ADVANTAGE,ALLIANCE,
ATTENTION,CENTRE,CONGRATULATION,COPY,CORRECT,EARTH,EIGHT,ENTERPRISE,EXCELLENT,FEMALE,FINANCIAL,
FIRE,FIVE,FOUR,HAVE,HIGH,ITEM,KINDERGARTEN,KOTO,LABOR,LEFT,LOW,MALE,MEDICINE,METAL,MOON,NAME,NIGHT,
NINE,ONE,PRINT,QUESTION,RELIGION,RESOURCE,REST,RIGHT,SCHOOL,SECRET,SEVEN,SIX,SOCIETY,SPECIAL,STOCK,
STUDY,SUITABLE,SUN,SUPERVISE,TEN,THREE,TWO,WATER,WOOD;CIRCLED INFORMATION=SOURCE;
CIRCLED ITALIC LATIN CAPITAL LETTER=C,R;CIRCLED KATAKANA=A,E,HA,HE,HI,HO,HU,I,KA,KE,KI,KO,KU,MA,ME,
MI,MO,MU,NA,NE,NI,NO,NU,O,RA,RE,RI,RO,RU,SA,SE,SI,SO,SU,TA,TE,TI,TO,TU,U,WA,WE,WI,WO,YA,YO,YU;
CIRCLED KOREAN CHARACTER=CHAMKO,JUEUI;CIRCLED LATIN CAPITAL LETTER=A,B,C,D,E,F,G,H,I,J,K,L,M,N,O,P,
Q,R,S,T,U,V,W,X,Y,Z;CIRCLED LATIN SMALL LETTER=A,B,C,D,E,F,G,H,I,J,K,L,M,N,O,P,Q,R,S,T,U,V,W,X,Y,Z;
CIRCLED MULTIPLICATION SIGN WITH CIRCUMFLEX=ACCENT;CIRCLED NUMBER=EIGHTEEN,ELEVEN,FIFTEEN,FIFTY,
FORTY,FOURTEEN,NINETEEN,SEVENTEEN,SIXTEEN,TEN,THIRTEEN,THIRTY,TWELVE,TWENTY;
CIRCLED NUMBER EIGHTY ON BLACK=SQUARE;CIRCLED NUMBER FIFTY ON BLACK=SQUARE;
CIRCLED NUMBER FORTY=EIGHT,FIVE,FOUR,NINE,ONE,SEVEN,SIX,THREE,TWO;
CIRCLED NUMBER FORTY ON BLACK=SQUARE;CIRCLED NUMBER SEVENTY ON BLACK=SQUARE;
CIRCLED NUMBER SIXTY ON BLACK=SQUARE;CIRCLED NUMBER TEN ON BLACK=SQUARE;
CIRCLED NUMBER THIRTY=EIGHT,FIVE,FOUR,NINE,ONE,SEVEN,SIX,THREE,TWO;
CIRCLED NUMBER THIRTY ON BLACK=SQUARE;CIRCLED NUMBER TWENTY=EIGHT,FIVE,FOUR,NINE,ONE,SEVEN,SIX,
THREE,TWO;CIRCLED NUMBER TWENTY ON BLACK=SQUARE;CIRCLED OPEN CENTRE EIGHT POINTED=STAR;
CIRCLED POSTAL=MARK;CIRCLED REVERSE=SOLIDUS;CIRCLED RING=OPERATOR;CIRCLED TRIANGLE=DOWN;
CIRCLED VERTICAL=BAR;CIRCLED WHITE=BULLET,STAR;CIRCLED ZERO WITH=SLASH;CIRCULATION=FUNCTION;
CIRCUMFLEX=ACCENT;CIRCUS=TENT;CITYSCAPE AT=DUSK;CJK COMPATIBILITY=IDEOGRAPH-2F800,IDEOGRAPH-2F801,
IDEOGRAPH-2F802,IDEOGRAPH-2F803,IDEOGRAPH-2F804,IDEOGRAPH-2F805,IDEOGRAPH-2F806,IDEOGRAPH-2F807,
IDEOGRAPH-2F808,IDEOGRAPH-2F809,IDEOGRAPH-2F80A,IDEOGRAPH-2F80B,IDEOGRAPH-2F80C,IDEOGRAPH-2F80D,
IDEOGRAPH-2F80E,IDEOGRAPH-2F80F,IDEOGRAPH-2F810,IDEOGRAPH-2F811,IDEOGRAPH-2F812,IDEOGRAPH-2F813,
IDEOGRAPH-2F814,IDEOGRAPH-2F815,IDEOGRAPH-2F816,IDEOGRAPH-2F817,IDEOGRAPH-2F818,IDEOGRAPH-2F819,
IDEOGRAPH-2F81A,IDEOGRAPH-2F81B,IDEOGRAPH-2F81C,IDEOGRAPH-2F81D,IDEOGRAPH-2F81E,IDEOGRAPH-2F81F,
IDEOGRAPH-2F820,IDEOGRAPH-2F821,IDEOGRAPH-2F822,IDEOGRAPH-2F823,IDEOGRAPH-2F824,IDEOGRAPH-2F825,
IDEOGRAPH-2F826,IDEOGRAPH-2F827,IDEOGRAPH-2F828,IDEOGRAPH-2F829,IDEOGRAPH-2F82A,IDEOGRAPH-2F82B,
IDEOGRAPH-2F82C,IDEOGRAPH-2F82D,IDEOGRAPH-2F82E,IDEOGRAPH-2F82F,IDEOGRAPH-2F830,IDEOGRAPH-2F831,
IDEOGRAPH-2F832,IDEOGRAPH-2F833,IDEOGRAPH-2F834,IDEOGRAPH-2F835,IDEOGRAPH-2F836,IDEOGRAPH-2F837,
IDEOGRAPH-2F838,IDEOGRAPH-2F839,IDEOGRAPH-2F83A,IDEOGRAPH-2F83B,IDEOGRAPH-2F83C,IDEOGRAPH-2F83D,
IDEOGRAPH-2F83E,IDEOGRAPH-2F83F,IDEOGRAPH-2F840,IDEOGRAPH-2F841,IDEOGRAPH-2F842,IDEOGRAPH-2F843,
IDEOGRAPH-2F844,IDEOGRAPH-2F845,IDEOGRAPH-2F846,IDEOGRAPH-2F847,IDEOGRAPH-2F848,IDEOGRAPH-2F849,
IDEOGRAPH-2F84A,IDEOGRAPH-2F84B,IDEOGRAPH-2F84C,IDEOGRAPH-2F84D,IDEOGRAPH-2F84E,IDEOGRAPH-2F84F,
IDEOGRAPH-2F850,IDEOGRAPH-2F851,IDEOGRAPH-2F852,IDEOGRAPH-2F853,IDEOGRAPH-2F854,IDEOGRAPH-2F855,
IDEOGRAPH-2F856,IDEOGRAPH-2F857,IDEOGRAPH-2F858,IDEOGRAPH-2F859,IDEOGRAPH-2F85A,IDEOGRAPH-2F85B,
IDEOGRAPH-2F85C,IDEOGRAPH-2F85D,IDEOGRAPH-2F85E,IDEOGRAPH-2F85F,IDEOGRAPH-2F860,IDEOGRAPH-2F861,
IDEOGRAPH-2F862,IDEOGRAPH-2F863,IDEOGRAPH-2F864,IDEOGRAPH-2F865,IDEOGRAPH-2F866,IDEOGRAPH-2F867,
IDEOGRAPH-2F868,IDEOGRAPH-2F869,IDEOGRAPH-2F86A,IDEOGRAPH-2F86B,IDEOGRAPH-2F86C,IDEOGRAPH-2F86D,
IDEOGRAPH-2F86E,IDEOGRAPH-2F86F,IDEOGRAPH-2F870,IDEOGRAPH-2F871,IDEOGRAPH-2F872,IDEOGRAPH-2F873,
IDEOGRAPH-2F874,IDEOGRAPH-2F875,IDEOGRAPH-2F876,IDEOGRAPH-2F877,IDEOGRAPH-2F878,IDEOGRAPH-2F879,
IDEOGRAPH-2F87A,IDEOGRAPH-2F87B,IDEOGRAPH-2F87C,IDEOGRAPH-2F87D,IDEOGRAPH-2F87E,IDEOGRAPH-2F87F,
IDEOGRAPH-2F880,IDEOGRAPH-2F881,IDEOGRAPH-2F882,IDEOGRAPH-2F883,IDEOGRAPH-2F884,IDEOGRAPH-2F885,
IDEOGRAPH-2F886,IDEOGRAPH-2F887,IDEOGRAPH-2F888,IDEOGRAPH-2F889,IDEOGRAPH-2F88A,IDEOGRAPH-2F88B,
IDEOGRAPH-2F88C,IDEOGRAPH-2F88D,IDEOGRAPH-2F88E,IDEOGRAPH-2F88F,IDEOGRAPH-2F890,IDEOGRAPH-2F891,
IDEOGRAPH-2F892,IDEOGRAPH-2F893,IDEOGRAPH-2F894,IDEOGRAPH-2F895,IDEOGRAPH-2F896,IDEOGRAPH-2F897,
IDEOGRAPH-2F898,IDEOGRAPH-2F899,IDEOGRAPH-2F89A,IDEOGRAPH-2F89B,IDEOGRAPH-2F89C,IDEOGRAPH-2F89D,
IDEOGRAPH-2F89E,IDEOGRAPH-2F89F,IDEOGRAPH-2F8A0,IDEOGRAPH-2F8A1,IDEOGRAPH-2F8A2,IDEOGRAPH-2F8A3,
IDEOGRAPH-2F8A4,IDEOGRAPH-2F8A5,IDEOGRAPH-2F8A6,IDEOGRAPH-2F8A7,IDEOGRAPH-2F8A8,IDEOGRAPH-2F8A9,
IDEOGRAPH-2F8AA,IDEOGRAPH-2F8AB,IDEOGRAPH-2F8AC,IDEOGRAPH-2F8AD,IDEOGRAPH-2F8AE,IDEOGRAPH-2F8AF,
IDEOGRAPH-2F8B0,IDEOGRAPH-2F8B1,IDEOGRAPH-2F8B2,IDEOGRAPH-2F8B3,IDEOGRAPH-2F8B4,IDEOGRAPH-2F8B5,
IDEOGRAPH-2F8B6,IDEOGRAPH-2F8B7,IDEOGRAPH-2F8B8,IDEOGRAPH-2F8B9,IDEOGRAPH-2F8BA,IDEOGRAPH-2F8BB,
IDEOGRAPH-2F8BC,IDEOGRAPH-2F8BD,IDEOGRAPH-2F8BE,IDEOGRAPH-2F8BF,IDEOGRAPH-2F8C0,IDEOGRAPH-2F8C1,
IDEOGRAPH-2F8C2,IDEOGRAPH-2F8C3,IDEOGRAPH-2F8C4,IDEOGRAPH-2F8C5,IDEOGRAPH-2F8C6,IDEOGRAPH-2F8C7,
IDEOGRAPH-2F8C8,IDEOGRAPH-2F8C9,IDEOGRAPH-2F8CA,IDEOGRAPH-2F8CB,IDEOGRAPH-2F8CC,IDEOGRAPH-2F8CD,
IDEOGRAPH-2F8CE,IDEOGRAPH-2F8CF,IDEOGRAPH-2F8D0,IDEOGRAPH-2F8D1,IDEOGRAPH-2F8D2,IDEOGRAPH-2F8D3,
IDEOGRAPH-2F8D4,IDEOGRAPH-2F8D5,IDEOGRAPH-2F8D6,IDEOGRAPH-2F8D7,IDEOGRAPH-2F8D8,IDEOGRAPH-2F8D9,
IDEOGRAPH-2F8DA,IDEOGRAPH-2F8DB,IDEOGRAPH-2F8DC,IDEOGRAPH-2F8DD,IDEOGRAPH-2F8DE,IDEOGRAPH-2F8DF,
IDEOGRAPH-2F8E0,IDEOGRAPH-2F8E1,IDEOGRAPH-2F8E2,IDEOGRAPH-2F8E3,IDEOGRAPH-2F8E4,IDEOGRAPH-2F8E5,
IDEOGRAPH-2F8E6,IDEOGRAPH-2F8E7,IDEOGRAPH-2F8E8,IDEOGRAPH-2F8E9,IDEOGRAPH-2F8EA,IDEOGRAPH-2F8EB,
IDEOGRAPH-2F8EC,IDEOGRAPH-2F8ED,IDEOGRAPH-2F8EE,IDEOGRAPH-2F8EF,IDEOGRAPH-2F8F0,IDEOGRAPH-2F8F1,
IDEOGRAPH-2F8F2,IDEOGRAPH-2F8F3,IDEOGRAPH-2F8F4,IDEOGRAPH-2F8F5,IDEOGRAPH-2F8F6,IDEOGRAPH-2F8F7,
IDEOGRAPH-2F8F8,IDEOGRAPH-2F8F9,IDEOGRAPH-2F8FA,IDEOGRAPH-2F8FB,IDEOGRAPH-2F8FC,IDEOGRAPH-2F8FD,
IDEOGRAPH-2F8FE,IDEOGRAPH-2F8FF,IDEOGRAPH-2F900,IDEOGRAPH-2F901,IDEOGRAPH-2F902,IDEOGRAPH-2F903,
IDEOGRAPH-2F904,IDEOGRAPH-2F905,IDEOGRAPH-2F906,IDEOGRAPH-2F907,IDEOGRAPH-2F908,IDEOGRAPH-2F909,
IDEOGRAPH-2F90A,IDEOGRAPH-2F90B,IDEOGRAPH-2F90C,IDEOGRAPH-2F90D,IDEOGRAPH-2F90E,IDEOGRAPH-2F90F,
IDEOGRAPH-2F910,IDEOGRAPH-2F911,IDEOGRAPH-2F912,IDEOGRAPH-2F913,IDEOGRAPH-2F914,IDEOGRAPH-2F915,
IDEOGRAPH-2F916,IDEOGRAPH-2F917,IDEOGRAPH-2F918,IDEOGRAPH-2F919,IDEOGRAPH-2F91A,IDEOGRAPH-2F91B,
IDEOGRAPH-2F91C,IDEOGRAPH-2F91D,IDEOGRAPH-2F91E,IDEOGRAPH-2F91F,IDEOGRAPH-2F920,IDEOGRAPH-2F921,
IDEOGRAPH-2F922,IDEOGRAPH-2F923,IDEOGRAPH-2F924,IDEOGRAPH-2F925,IDEOGRAPH-2F926,IDEOGRAPH-2F927,
IDEOGRAPH-2F928,IDEOGRAPH-2F929,IDEOGRAPH-2F92A,IDEOGRAPH-2F92B,IDEOGRAPH-2F92C,IDEOGRAPH-2F92D,
IDEOGRAPH-2F92E,IDEOGRAPH-2F92F,IDEOGRAPH-2F930,IDEOGRAPH-2F931,IDEOGRAPH-2F932,IDEOGRAPH-2F933,
IDEOGRAPH-2F934,IDEOGRAPH-2F935,IDEOGRAPH-2F936,IDEOGRAPH-2F937,IDEOGRAPH-2F938,IDEOGRAPH-2F939,
IDEOGRAPH-2F93A,IDEOGRAPH-2F93B,IDEOGRAPH-2F93C,IDEOGRAPH-2F93D,IDEOGRAPH-2F93E,IDEOGRAPH-2F93F,
IDEOGRAPH-2F940,IDEOGRAPH-2F941,IDEOGRAPH-2F942,IDEOGRAPH-2F943,IDEOGRAPH-2F944,IDEOGRAPH-2F945,
IDEOGRAPH-2F946,IDEOGRAPH-2F947,IDEOGRAPH-2F948,IDEOGRAPH-2F949,IDEOGRAPH-2F94A,IDEOGRAPH-2F94B,
IDEOGRAPH-2F94C,IDEOGRAPH-2F94D,IDEOGRAPH-2F94E,IDEOGRAPH-2F94F,IDEOGRAPH-2F950,IDEOGRAPH-2F951,
IDEOGRAPH-2F952,IDEOGRAPH-2F953,IDEOGRAPH-2F954,IDEOGRAPH-2F955,IDEOGRAPH-2F956,IDEOGRAPH-2F957,
IDEOGRAPH-2F958,IDEOGRAPH-2F959,IDEOGRAPH-2F95A,IDEOGRAPH-2F95B,IDEOGRAPH-2F95C,IDEOGRAPH-2F95D,
IDEOGRAPH-2F95E,IDEOGRAPH-2F95F,IDEOGRAPH-2F960,IDEOGRAPH-2F961,IDEOGRAPH-2F962,IDEOGRAPH-2F963,
IDEOGRAPH-2F964,IDEOGRAPH-2F965,IDEOGRAPH-2F966,IDEOGRAPH-2F967,IDEOGRAPH-2F968,IDEOGRAPH-2F969,
IDEOGRAPH-2F96A,IDEOGRAPH-2F96B,IDEOGRAPH-2F96C,IDEOGRAPH-2F96D,IDEOGRAPH-2F96E,IDEOGRAPH-2F96F,
IDEOGRAPH-2F970,IDEOGRAPH-2F971,IDEOGRAPH-2F972,IDEOGRAPH-2F973,IDEOGRAPH-2F974,IDEOGRAPH-2F975,
IDEOGRAPH-2F976,IDEOGRAPH-2F977,IDEOGRAPH-2F978,IDEOGRAPH-2F979,IDEOGRAPH-2F97A,IDEOGRAPH-2F97B,
IDEOGRAPH-2F97C,IDEOGRAPH-2F97D,IDEOGRAPH-2F97E,IDEOGRAPH-2F97F,IDEOGRAPH-2F980,IDEOGRAPH-2F981,
IDEOGRAPH-2F982,IDEOGRAPH-2F983,IDEOGRAPH-2F984,IDEOGRAPH-2F985,IDEOGRAPH-2F986,IDEOGRAPH-2F987,
IDEOGRAPH-2F988,IDEOGRAPH-2F989,IDEOGRAPH-2F98A,IDEOGRAPH-2F98B,IDEOGRAPH-2F98C,IDEOGRAPH-2F98D,
IDEOGRAPH-2F98E,IDEOGRAPH-2F98F,IDEOGRAPH-2F990,IDEOGRAPH-2F991,IDEOGRAPH-2F992,IDEOGRAPH-2F993,
IDEOGRAPH-2F994,IDEOGRAPH-2F995,IDEOGRAPH-2F996,IDEOGRAPH-2F997,IDEOGRAPH-2F998,IDEOGRAPH-2F999,
IDEOGRAPH-2F99A,IDEOGRAPH-2F99B,IDEOGRAPH-2F99C,IDEOGRAPH-2F99D,IDEOGRAPH-2F99E,IDEOGRAPH-2F99F,
IDEOGRAPH-2F9A0,IDEOGRAPH-2F9A1,IDEOGRAPH-2F9A2,IDEOGRAPH-2F9A3,IDEOGRAPH-2F9A4,IDEOGRAPH-2F9A5,
IDEOGRAPH-2F9A6,IDEOGRAPH-2F9A7,IDEOGRAPH-2F9A8,IDEOGRAPH-2F9A9,IDEOGRAPH-2F9AA,IDEOGRAPH-2F9AB,
IDEOGRAPH-2F9AC,IDEOGRAPH-2F9AD,IDEOGRAPH-2F9AE,IDEOGRAPH-2F9AF,IDEOGRAPH-2F9B0,IDEOGRAPH-2F9B1,
IDEOGRAPH-2F9B2,IDEOGRAPH-2F9B3,IDEOGRAPH-2F9B4,IDEOGRAPH-2F9B5,IDEOGRAPH-2F9B6,IDEOGRAPH-2F9B7,
IDEOGRAPH-2F9B8,IDEOGRAPH-2F9B9,IDEOGRAPH-2F9BA,IDEOGRAPH-2F9BB,IDEOGRAPH-2F9BC,IDEOGRAPH-2F9BD,
IDEOGRAPH-2F9BE,IDEOGRAPH-2F9BF,IDEOGRAPH-2F9C0,IDEOGRAPH-2F9C1,IDEOGRAPH-2F9C2,IDEOGRAPH-2F9C3,
IDEOGRAPH-2F9C4,IDEOGRAPH-2F9C5,IDEOGRAPH-2F9C6,IDEOGRAPH-2F9C7,IDEOGRAPH-2F9C8,IDEOGRAPH-2F9C9,
IDEOGRAPH-2F9CA,IDEOGRAPH-2F9CB,IDEOGRAPH-2F9CC,IDEOGRAPH-2F9CD,IDEOGRAPH-2F9CE,IDEOGRAPH-2F9CF,
IDEOGRAPH-2F9D0,IDEOGRAPH-2F9D1,IDEOGRAPH-2F9D2,IDEOGRAPH-2F9D3,IDEOGRAPH-2F9D4,IDEOGRAPH-2F9D5,
IDEOGRAPH-2F9D6,IDEOGRAPH-2F9D7,IDEOGRAPH-2F9D8,IDEOGRAPH-2F9D9,IDEOGRAPH-2F9DA,IDEOGRAPH-2F9DB,
IDEOGRAPH-2F9DC,IDEOGRAPH-2F9DD,IDEOGRAPH-2F9DE,IDEOGRAPH-2F9DF,IDEOGRAPH-2F9E0,IDEOGRAPH-2F9E1,
IDEOGRAPH-2F9E2,IDEOGRAPH-2F9E3,IDEOGRAPH-2F9E4,IDEOGRAPH-2F9E5,IDEOGRAPH-2F9E6,IDEOGRAPH-2F9E7,
IDEOGRAPH-2F9E8,IDEOGRAPH-2F9E9,IDEOGRAPH-2F9EA,IDEOGRAPH-2F9EB,IDEOGRAPH-2F9EC,IDEOGRAPH-2F9ED,
IDEOGRAPH-2F9EE,IDEOGRAPH-2F9EF,IDEOGRAPH-2F9F0,IDEOGRAPH-2F9F1,IDEOGRAPH-2F9F2,IDEOGRAPH-2F9F3,
IDEOGRAPH-2F9F4,IDEOGRAPH-2F9F5,IDEOGRAPH-2F9F6,IDEOGRAPH-2F9F7,IDEOGRAPH-2F9F8,IDEOGRAPH-2F9F9,
IDEOGRAPH-2F9FA,IDEOGRAPH-2F9FB,IDEOGRAPH-2F9FC,IDEOGRAPH-2F9FD,IDEOGRAPH-2F9FE,IDEOGRAPH-2F9FF,
IDEOGRAPH-2FA00,IDEOGRAPH-2FA01,IDEOGRAPH-2FA02,IDEOGRAPH-2FA03,IDEOGRAPH-2FA04,IDEOGRAPH-2FA05,
IDEOGRAPH-2FA06,IDEOGRAPH-2FA07,IDEOGRAPH-2FA08,IDEOGRAPH-2FA09,IDEOGRAPH-2FA0A,IDEOGRAPH-2FA0B,
IDEOGRAPH-2FA0C,IDEOGRAPH-2FA0D,IDEOGRAPH-2FA0E,IDEOGRAPH-2FA0F,IDEOGRAPH-2FA10,IDEOGRAPH-2FA11,
IDEOGRAPH-2FA12,IDEOGRAPH-2FA13,IDEOGRAPH-2FA14,IDEOGRAPH-2FA15,IDEOGRAPH-2FA16,IDEOGRAPH-2FA17,
IDEOGRAPH-2FA18,IDEOGRAPH-2FA19,IDEOGRAPH-2FA1A,IDEOGRAPH-2FA1B,IDEOGRAPH-2FA1C,IDEOGRAPH-2FA1D,
IDEOGRAPH-F900,IDEOGRAPH-F901,IDEOGRAPH-F902,IDEOGRAPH-F903,IDEOGRAPH-F904,IDEOGRAPH-F905,
IDEOGRAPH-F906,IDEOGRAPH-F907,IDEOGRAPH-F908,IDEOGRAPH-F909,IDEOGRAPH-F90A,IDEOGRAPH-F90B,
IDEOGRAPH-F90C,IDEOGRAPH-F90D,IDEOGRAPH-F90E,IDEOGRAPH-F90F,IDEOGRAPH-F910,IDEOGRAPH-F911,
IDEOGRAPH-F912,IDEOGRAPH-F913,IDEOGRAPH-F914,IDEOGRAPH-F915,IDEOGRAPH-F916,IDEOGRAPH-F917,
IDEOGRAPH-F918,IDEOGRAPH-F919,IDEOGRAPH-F91A,IDEOGRAPH-F91B,IDEOGRAPH-F91C,IDEOGRAPH-F91D,
IDEOGRAPH-F91E,IDEOGRAPH-F91F,IDEOGRAPH-F920,IDEOGRAPH-F921,IDEOGRAPH-F922,IDEOGRAPH-F923,
IDEOGRAPH-F924,IDEOGRAPH-F925,IDEOGRAPH-F926,IDEOGRAPH-F927,IDEOGRAPH-F928,IDEOGRAPH-F929,
IDEOGRAPH-F92A,IDEOGRAPH-F92B,IDEOGRAPH-F92C,IDEOGRAPH-F92D,IDEOGRAPH-F92E,IDEOGRAPH-F92F,
IDEOGRAPH-F930,IDEOGRAPH-F931,IDEOGRAPH-F932,IDEOGRAPH-F933,IDEOGRAPH-F934,IDEOGRAPH-F935,
IDEOGRAPH-F936,IDEOGRAPH-F937,IDEOGRAPH-F938,IDEOGRAPH-F939,IDEOGRAPH-F93A,IDEOGRAPH-F93B,
IDEOGRAPH-F93C,IDEOGRAPH-F93D,IDEOGRAPH-F93E,IDEOGRAPH-F93F,IDEOGRAPH-F940,IDEOGRAPH-F941,
IDEOGRAPH-F942,IDEOGRAPH-F943,IDEOGRAPH-F944,IDEOGRAPH-F945,IDEOGRAPH-F946,IDEOGRAPH-F947,
IDEOGRAPH-F948,IDEOGRAPH-F949,IDEOGRAPH-F94A,IDEOGRAPH-F94B,IDEOGRAPH-F94C,IDEOGRAPH-F94D,
IDEOGRAPH-F94E,IDEOGRAPH-F94F,IDEOGRAPH-F950,IDEOGRAPH-F951,IDEOGRAPH-F952,IDEOGRAPH-F953,
IDEOGRAPH-F954,IDEOGRAPH-F955,IDEOGRAPH-F956,IDEOGRAPH-F957,IDEOGRAPH-F958,IDEOGRAPH-F959,
IDEOGRAPH-F95A,IDEOGRAPH-F95B,IDEOGRAPH-F95C,IDEOGRAPH-F95D,IDEOGRAPH-F95E,IDEOGRAPH-F95F,
IDEOGRAPH-F960,IDEOGRAPH-F961,IDEOGRAPH-F962,IDEOGRAPH-F963,IDEOGRAPH-F964,IDEOGRAPH-F965,
IDEOGRAPH-F966,IDEOGRAPH-F967,IDEOGRAPH-F968,IDEOGRAPH-F969,IDEOGRAPH-F96A,IDEOGRAPH-F96B,
IDEOGRAPH-F96C,IDEOGRAPH-F96D,IDEOGRAPH-F96E,IDEOGRAPH-F96F,IDEOGRAPH-F970,IDEOGRAPH-F971,
IDEOGRAPH-F972,IDEOGRAPH-F973,IDEOGRAPH-F974,IDEOGRAPH-F975,IDEOGRAPH-F976,IDEOGRAPH-F977,
IDEOGRAPH-F978,IDEOGRAPH-F979,IDEOGRAPH-F97A,IDEOGRAPH-F97B,IDEOGRAPH-F97C,IDEOGRAPH-F97D,
IDEOGRAPH-F97E,IDEOGRAPH-F97F,IDEOGRAPH-F980,IDEOGRAPH-F981,IDEOGRAPH-F982,IDEOGRAPH-F983,
IDEOGRAPH-F984,IDEOGRAPH-F985,IDEOGRAPH-F986,IDEOGRAPH-F987,IDEOGRAPH-F988,IDEOGRAPH-F989,
IDEOGRAPH-F98A,IDEOGRAPH-F98B,IDEOGRAPH-F98C,IDEOGRAPH-F98D,IDEOGRAPH-F98E,IDEOGRAPH-F98F,
IDEOGRAPH-F990,IDEOGRAPH-F991,IDEOGRAPH-F992,IDEOGRAPH-F993,IDEOGRAPH-F994,IDEOGRAPH-F995,
IDEOGRAPH-F996,IDEOGRAPH-F997,IDEOGRAPH-F998,IDEOGRAPH-F999,IDEOGRAPH-F99A,IDEOGRAPH-F99B,
IDEOGRAPH-F99C,IDEOGRAPH-F99D,IDEOGRAPH-F99E,IDEOGRAPH-F99F,IDEOGRAPH-F9A0,IDEOGRAPH-F9A1,
IDEOGRAPH-F9A2,IDEOGRAPH-F9A3,IDEOGRAPH-F9A4,IDEOGRAPH-F9A5,IDEOGRAPH-F9A6,IDEOGRAPH-F9A7,
IDEOGRAPH-F9A8,IDEOGRAPH-F9A9,IDEOGRAPH-F9AA,IDEOGRAPH-F9AB,IDEOGRAPH-F9AC,IDEOGRAPH-F9AD,
IDEOGRAPH-F9AE,IDEOGRAPH-F9AF,IDEOGRAPH-F9B0,IDEOGRAPH-F9B1,IDEOGRAPH-F9B2,IDEOGRAPH-F9B3,
IDEOGRAPH-F9B4,IDEOGRAPH-F9B5,IDEOGRAPH-F9B6,IDEOGRAPH-F9B7,IDEOGRAPH-F9B8,IDEOGRAPH-F9B9,
IDEOGRAPH-F9BA,IDEOGRAPH-F9BB,IDEOGRAPH-F9BC,IDEOGRAPH-F9BD,IDEOGRAPH-F9BE,IDEOGRAPH-F9BF,
IDEOGRAPH-F9C0,IDEOGRAPH-F9C1,IDEOGRAPH-F9C2,IDEOGRAPH-F9C3,IDEOGRAPH-F9C4,IDEOGRAPH-F9C5,
IDEOGRAPH-F9C6,IDEOGRAPH-F9C7,IDEOGRAPH-F9C8,IDEOGRAPH-F9C9,IDEOGRAPH-F9CA,IDEOGRAPH-F9CB,
IDEOGRAPH-F9CC,IDEOGRAPH-F9CD,IDEOGRAPH-F9CE,IDEOGRAPH-F9CF,IDEOGRAPH-F9D0,IDEOGRAPH-F9D1,
IDEOGRAPH-F9D2,IDEOGRAPH-F9D3,IDEOGRAPH-F9D4,IDEOGRAPH-F9D5,IDEOGRAPH-F9D6,IDEOGRAPH-F9D7,
IDEOGRAPH-F9D8,IDEOGRAPH-F9D9,IDEOGRAPH-F9DA,IDEOGRAPH-F9DB,IDEOGRAPH-F9DC,IDEOGRAPH-F9DD,
IDEOGRAPH-F9DE,IDEOGRAPH-F9DF,IDEOGRAPH-F9E0,IDEOGRAPH-F9E1,IDEOGRAPH-F9E2,IDEOGRAPH-F9E3,
IDEOGRAPH-F9E4,IDEOGRAPH-F9E5,IDEOGRAPH-F9E6,IDEOGRAPH-F9E7,IDEOGRAPH-F9E8,IDEOGRAPH-F9E9,
IDEOGRAPH-F9EA,IDEOGRAPH-F9EB,IDEOGRAPH-F9EC,IDEOGRAPH-F9ED,IDEOGRAPH-F9EE,IDEOGRAPH-F9EF,
IDEOGRAPH-F9F0,IDEOGRAPH-F9F1,IDEOGRAPH-F9F2,IDEOGRAPH-F9F3,IDEOGRAPH-F9F4,IDEOGRAPH-F9F5,
IDEOGRAPH-F9F6,IDEOGRAPH-F9F7,IDEOGRAPH-F9F8,IDEOGRAPH-F9F9,IDEOGRAPH-F9FA,IDEOGRAPH-F9FB,
IDEOGRAPH-F9FC,IDEOGRAPH-F9FD,IDEOGRAPH-F9FE,IDEOGRAPH-F9FF,IDEOGRAPH-FA00,IDEOGRAPH-FA01,
IDEOGRAPH-FA02,IDEOGRAPH-FA03,IDEOGRAPH-FA04,IDEOGRAPH-FA05,IDEOGRAPH-FA06,IDEOGRAPH-FA07,
IDEOGRAPH-FA08,IDEOGRAPH-FA09,IDEOGRAPH-FA0A,IDEOGRAPH-FA0B,IDEOGRAPH-FA0C,IDEOGRAPH-FA0D,
IDEOGRAPH-FA0E,IDEOGRAPH-FA0F,IDEOGRAPH-FA10,IDEOGRAPH-FA11,IDEOGRAPH-FA12,IDEOGRAPH-FA13,
IDEOGRAPH-FA14,IDEOGRAPH-FA15,IDEOGRAPH-FA16,IDEOGRAPH-FA17,IDEOGRAPH-FA18,IDEOGRAPH-FA19,
IDEOGRAPH-FA1A,IDEOGRAPH-FA1B,IDEOGRAPH-FA1C,IDEOGRAPH-FA1D,IDEOGRAPH-FA1E,IDEOGRAPH-FA1F,
IDEOGRAPH-FA20,IDEOGRAPH-FA21,IDEOGRAPH-FA22,IDEOGRAPH-FA23,IDEOGRAPH-FA24,IDEOGRAPH-FA25,
IDEOGRAPH-FA26,IDEOGRAPH-FA27,IDEOGRAPH-FA28,IDEOGRAPH-FA29,IDEOGRAPH-FA2A,IDEOGRAPH-FA2B,
IDEOGRAPH-FA2C,IDEOGRAPH-FA2D,IDEOGRAPH-FA2E,IDEOGRAPH-FA2F,IDEOGRAPH-FA30,IDEOGRAPH-FA31,
IDEOGRAPH-FA32,IDEOGRAPH-FA33,IDEOGRAPH-FA34,IDEOGRAPH-FA35,IDEOGRAPH-FA36,IDEOGRAPH-FA37,
IDEOGRAPH-FA38,IDEOGRAPH-FA39,IDEOGRAPH-FA3A,IDEOGRAPH-FA3B,IDEOGRAPH-FA3C,IDEOGRAPH-FA3D,
IDEOGRAPH-FA3E,IDEOGRAPH-FA3F,IDEOGRAPH-FA40,IDEOGRAPH-FA41,IDEOGRAPH-FA42,IDEOGRAPH-FA43,
IDEOGRAPH-FA44,IDEOGRAPH-FA45,IDEOGRAPH-FA46,IDEOGRAPH-FA47,IDEOGRAPH-FA48,IDEOGRAPH-FA49,
IDEOGRAPH-FA4A,IDEOGRAPH-FA4B,IDEOGRAPH-FA4C,IDEOGRAPH-FA4D,IDEOGRAPH-FA4E,IDEOGRAPH-FA4F,
IDEOGRAPH-FA50,IDEOGRAPH-FA51,IDEOGRAPH-FA52,IDEOGRAPH-FA53,IDEOGRAPH-FA54,IDEOGRAPH-FA55,
IDEOGRAPH-FA56,IDEOGRAPH-FA57,IDEOGRAPH-FA58,IDEOGRAPH-FA59,IDEOGRAPH-FA5A,IDEOGRAPH-FA5B,
IDEOGRAPH-FA5C,IDEOGRAPH-FA5D,IDEOGRAPH-FA5E,IDEOGRAPH-FA5F,IDEOGRAPH-FA60,IDEOGRAPH-FA61,
IDEOGRAPH-FA62,IDEOGRAPH-FA63,IDEOGRAPH-FA64,IDEOGRAPH-FA65,IDEOGRAPH-FA66,IDEOGRAPH-FA67,
IDEOGRAPH-FA68,IDEOGRAPH-FA69,IDEOGRAPH-FA6A,IDEOGRAPH-FA6B,IDEOGRAPH-FA6C,IDEOGRAPH-FA6D,
IDEOGRAPH-FA70,IDEOGRAPH-FA71,IDEOGRAPH-FA72,IDEOGRAPH-FA73,IDEOGRAPH-FA74,IDEOGRAPH-FA75,
IDEOGRAPH-FA76,IDEOGRAPH-FA77,IDEOGRAPH-FA78,IDEOGRAPH-FA79,IDEOGRAPH-FA7A,IDEOGRAPH-FA7B,
IDEOGRAPH-FA7C,IDEOGRAPH-FA7D,IDEOGRAPH-FA7E,IDEOGRAPH-FA7F,IDEOGRAPH-FA80,IDEOGRAPH-FA81,
IDEOGRAPH-FA82,IDEOGRAPH-FA83,IDEOGRAPH-FA84,IDEOGRAPH-FA85,IDEOGRAPH-FA86,IDEOGRAPH-FA87,
IDEOGRAPH-FA88,IDEOGRAPH-FA89,IDEOGRAPH-FA8A,IDEOGRAPH-FA8B,IDEOGRAPH-FA8C,IDEOGRAPH-FA8D,
IDEOGRAPH-FA8E,IDEOGRAPH-FA8F,IDEOGRAPH-FA90,IDEOGRAPH-FA91,IDEOGRAPH-FA92,IDEOGRAPH-FA93,
IDEOGRAPH-FA94,IDEOGRAPH-FA95,IDEOGRAPH-FA96,IDEOGRAPH-FA97,IDEOGRAPH-FA98,IDEOGRAPH-FA99,
IDEOGRAPH-FA9A,IDEOGRAPH-FA9B,IDEOGRAPH-FA9C,IDEOGRAPH-FA9D,IDEOGRAPH-FA9E,IDEOGRAPH-FA9F,
IDEOGRAPH-FAA0,IDEOGRAPH-FAA1,IDEOGRAPH-FAA2,IDEOGRAPH-FAA3,IDEOGRAPH-FAA4,IDEOGRAPH-FAA5,
IDEOGRAPH-FAA6,IDEOGRAPH-FAA7,IDEOGRAPH-FAA8,IDEOGRAPH-FAA9,IDEOGRAPH-FAAA,IDEOGRAPH-FAAB,
IDEOGRAPH-FAAC,IDEOGRAPH-FAAD,IDEOGRAPH-FAAE,IDEOGRAPH-FAAF,IDEOGRAPH-FAB0,IDEOGRAPH-FAB1,
IDEOGRAPH-FAB2,IDEOGRAPH-FAB3,IDEOGRAPH-FAB4,IDEOGRAPH-FAB5,IDEOGRAPH-FAB6,IDEOGRAPH-FAB7,
IDEOGRAPH-FAB8,IDEOGRAPH-FAB9,IDEOGRAPH-FABA,IDEOGRAPH-FABB,IDEOGRAPH-FABC,IDEOGRAPH-FABD,
IDEOGRAPH-FABE,IDEOGRAPH-FABF,IDEOGRAPH-FAC0,IDEOGRAPH-FAC1,IDEOGRAPH-FAC2,IDEOGRAPH-FAC3,
IDEOGRAPH-FAC4,IDEOGRAPH-FAC5,IDEOGRAPH-FAC6,IDEOGRAPH-FAC7,IDEOGRAPH-FAC8,IDEOGRAPH-FAC9,
IDEOGRAPH-FACA,IDEOGRAPH-FACB,IDEOGRAPH-FACC,IDEOGRAPH-FACD,IDEOGRAPH-FACE,IDEOGRAPH-FACF,
IDEOGRAPH-FAD0,IDEOGRAPH-FAD1,IDEOGRAPH-FAD2,IDEOGRAPH-FAD3,IDEOGRAPH-FAD4,IDEOGRAPH-FAD5,
IDEOGRAPH-FAD6,IDEOGRAPH-FAD7,IDEOGRAPH-FAD8,IDEOGRAPH-FAD9;CJK RADICAL=BAMBOO,BLUE,BONE,BOX,CHOKE,
CITY,CIVILIAN,CLIFF,CLOTHES,COW,DEATH,DIVINATION,DOG,EWE,EYE,FIRE,FOOT,GHOST,HAND,HEAD,HORN,JADE,
MEAT,MESH,MOON,MORTAR,MOTHER,OLD,PERSON,RAIN,RAM,RAP,REPEAT,SEAL,SHEEP,SILK,SNAKE,SUN,TABLE,THREAD,
TIGER,TURTLE;CJK RADICAL BOLT OF=CLOTH;CJK RADICAL BRUSH=ONE,TWO;CJK RADICAL C-SIMPLIFIED=BIRD,
CART,DRAGON,EAT,EVEN,FISH,FLY,FROG,GATE,GOLD,HORSE,LEAF,LONG,SALT,SEE,SHELL,SILK,SPEECH,TOOTH,
TURTLE,WIND;CJK RADICAL C-SIMPLIFIED TANNED=LEATHER;CJK RADICAL EAT=ONE,THREE,TWO;
CJK RADICAL GRASS=ONE,THREE,TWO;CJK RADICAL HEART=ONE,TWO;CJK RADICAL J-SIMPLIFIED=DRAGON,EVEN,
TOOTH,TURTLE;CJK RADICAL KNIFE=ONE,TWO;CJK RADICAL LAME=FOUR,ONE,THREE,TWO;CJK RADICAL LONG=ONE,
TWO;CJK RADICAL MOUND=ONE,TWO;CJK RADICAL NET=FOUR,ONE,THREE,TWO;CJK RADICAL PAW=ONE,TWO;
CJK RADICAL SECOND=ONE,THREE,TWO;CJK RADICAL SIMPLIFIED=HORN,WALK,WHEAT,YELLOW;
CJK RADICAL SIMPLIFIED HALF TREE=TRUNK;CJK RADICAL SMALL=ONE,TWO;CJK RADICAL SNOUT=ONE,TWO;
CJK RADICAL SPIRIT=ONE,TWO;CJK RADICAL WALK=ONE,TWO;CJK RADICAL WATER=ONE,TWO;CJK RADICAL WEST=ONE,
TWO;CJK STROKE=BXG,D,H,HG,HP,HPWG,HXWG,HZ,HZG,HZT,HZW,HZWG,HZZ,HZZP,HZZZ,HZZZG,N,P,PD,PG,PZ,Q,S,SG,
SP,ST,SW,SWG,SWZ,SZ,SZWG,SZZ,T,TN,WG,XG;CLAMSHELL MOBILE=PHONE;CLAPPER=BOARD;CLAPPING HANDS=SIGN;
CLASSICAL=BUILDING;CLEAR SCREEN=SYMBOL;CLINKING=GLASSES;CLINKING BEER=MUGS;CLOCK FACE=EIGHT-THIRTY,
ELEVEN-THIRTY,FIVE-THIRTY,FOUR-THIRTY,NINE-THIRTY,ONE-THIRTY,SEVEN-THIRTY,SIX-THIRTY,TEN-THIRTY,
THREE-THIRTY,TWELVE-THIRTY,TWO-THIRTY;CLOCK FACE EIGHT=OCLOCK;CLOCK FACE ELEVEN=OCLOCK;
CLOCK FACE FIVE=OCLOCK;CLOCK FACE FOUR=OCLOCK;CLOCK FACE NINE=OCLOCK;CLOCK FACE ONE=OCLOCK;
CLOCK FACE SEVEN=OCLOCK;CLOCK FACE SIX=OCLOCK;CLOCK FACE TEN=OCLOCK;CLOCK FACE THREE=OCLOCK;
CLOCK FACE TWELVE=OCLOCK;CLOCK FACE TWO=OCLOCK;CLOCKWISE=INTEGRAL;CLOCKWISE CLOSED CIRCLE=ARROW;
CLOCKWISE CONTOUR=INTEGRAL;CLOCKWISE DOWNWARDS AND UPWARDS OPEN CIRCLE=ARROWS;
CLOCKWISE GAPPED CIRCLE=ARROW;CLOCKWISE OPEN CIRCLE=ARROW;
CLOCKWISE RIGHT AND LEFT SEMICIRCLE=ARROWS;CLOCKWISE RIGHTWARDS AND LEFTWARDS OPEN CIRCLE=ARROWS;
CLOCKWISE RIGHTWARDS AND LEFTWARDS OPEN CIRCLE ARROWS WITH CIRCLED ONE=OVERLAY;
CLOCKWISE TOP SEMICIRCLE=ARROW;CLOCKWISE TRIANGLE-HEADED OPEN CIRCLE=ARROW;CLOSE=UP;CLOSED=BOOK,
SUBSET,SUPERSET,UMBRELLA;CLOSED INTERSECTION WITH=SERIFS;CLOSED LOCK WITH=KEY;
CLOSED MAILBOX WITH LOWERED=FLAG;CLOSED MAILBOX WITH RAISED=FLAG;CLOSED SUBSET OR EQUAL=TO;
CLOSED SUPERSET OR EQUAL=TO;CLOSED UNION WITH=SERIFS;CLOSED UNION WITH SERIFS AND SMASH=PRODUCT;
CLOUD WITH=LIGHTNING,RAIN,SNOW,TORNADO;CLOWN=FACE;COCKTAIL=GLASS;COLLISION=SYMBOL;COLON=EQUALS,
SIGN;COMBINING=ACUTE-GRAVE-ACUTE,ACUTE-MACRON,BREVE,BREVE-MACRON,CANDRABINDU,CARON,CEDILLA,
DIAERESIS,DIAERESIS-RING,FERMATA,GRAVE-ACUTE-GRAVE,GRAVE-MACRON,HORN,INFINITY,MACRON,MACRON-ACUTE,
MACRON-BREVE,MACRON-GRAVE,OGONEK,OVERLINE,TILDE;COMBINING ACUTE=ACCENT;
COMBINING ACUTE ACCENT=BELOW;COMBINING ACUTE TONE=MARK;COMBINING ALMOST EQUAL TO=ABOVE,BELOW;
COMBINING ANNUITY=SYMBOL;COMBINING ANTICLOCKWISE ARROW=ABOVE;COMBINING ANTICLOCKWISE RING=OVERLAY;
COMBINING ASTERISK=ABOVE,BELOW;COMBINING BINDU=BELOW;COMBINING BREVE=BELOW;COMBINING BRIDGE=ABOVE,
BELOW;COMBINING CARON=BELOW;COMBINING CIRCUMFLEX=ACCENT;COMBINING CIRCUMFLEX ACCENT=BELOW;
COMBINING CLOCKWISE ARROW=ABOVE;COMBINING CLOCKWISE RING=OVERLAY;COMBINING COMMA=ABOVE,BELOW;
COMBINING COMMA ABOVE=RIGHT;COMBINING CONJOINING=MACRON;COMBINING CONJOINING MACRON=BELOW;
COMBINING CYRILLIC=KAVYKA,PALATALIZATION,PAYEROK,POKRYTIE,TITLO,VZMET;
COMBINING CYRILLIC DASIA=PNEUMATA;COMBINING CYRILLIC HUNDRED MILLIONS=SIGN;
COMBINING CYRILLIC HUNDRED THOUSANDS=SIGN;COMBINING CYRILLIC LETTER=A,BE,CHE,DE,DJERV,EF,EL,EM,EN,
ER,ES,ES-TE,FITA,GHE,HA,I,IE,KA,O,OMEGA,PE,SHA,SHCHA,TE,TSE,U,VE,YAT,YERU,YI,YU,ZE,ZHE;
COMBINING CYRILLIC LETTER BIG=YUS;COMBINING CYRILLIC LETTER HARD=SIGN;
COMBINING CYRILLIC LETTER IOTIFIED=A,E;COMBINING CYRILLIC LETTER IOTIFIED BIG=YUS;
COMBINING CYRILLIC LETTER LITTLE=YUS;COMBINING CYRILLIC LETTER MONOGRAPH=UK;
COMBINING CYRILLIC LETTER SOFT=SIGN;COMBINING CYRILLIC LETTER UKRAINIAN=IE;
COMBINING CYRILLIC MILLIONS=SIGN;COMBINING CYRILLIC PSILI=PNEUMATA;
COMBINING CYRILLIC TEN MILLIONS=SIGN;COMBINING CYRILLIC THOUSAND MILLIONS=SIGN;
COMBINING CYRILLIC TITLO LEFT=HALF;COMBINING CYRILLIC TITLO RIGHT=HALF;COMBINING DELETION=MARK;
COMBINING DEVANAGARI DIGIT=EIGHT,FIVE,FOUR,NINE,ONE,SEVEN,SIX,THREE,TWO,ZERO;
COMBINING DEVANAGARI LETTER=A,KA,NA,PA,RA,U,VI;COMBINING DEVANAGARI SIGN=AVAGRAHA;
COMBINING DIAERESIS=BELOW;COMBINING DOT=ABOVE,BELOW;COMBINING DOT ABOVE=LEFT,RIGHT;
COMBINING DOT BELOW=LEFT;COMBINING DOTTED ACUTE=ACCENT;COMBINING DOTTED GRAVE=ACCENT;
COMBINING DOUBLE=BREVE,MACRON,OVERLINE,TILDE;COMBINING DOUBLE ACUTE=ACCENT;
COMBINING DOUBLE BREVE=BELOW;COMBINING DOUBLE CIRCUMFLEX=ABOVE;COMBINING DOUBLE GRAVE=ACCENT;
COMBINING DOUBLE INVERTED=BREVE;COMBINING DOUBLE INVERTED BREVE=BELOW;COMBINING DOUBLE LOW=LINE;
COMBINING DOUBLE MACRON=BELOW;COMBINING DOUBLE OPEN MARK=BELOW;COMBINING DOUBLE PARENTHESES=ABOVE;
COMBINING DOUBLE PLUS SIGN=ABOVE,BELOW;COMBINING DOUBLE RIGHTWARDS ARROW=BELOW;
COMBINING DOUBLE RING=BELOW;COMBINING DOUBLE TILDE LEFT=HALF;COMBINING DOUBLE TILDE RIGHT=HALF;
COMBINING DOUBLE VERTICAL LINE=ABOVE,BELOW;COMBINING DOUBLE VERTICAL STROKE=OVERLAY;
COMBINING DOUBLED CIRCUMFLEX=ACCENT;COMBINING DOWN TACK=BELOW;COMBINING DOWNWARDS=ARROW;
COMBINING ENCLOSING=CIRCLE,DIAMOND,KEYCAP,SCREEN,SQUARE;COMBINING ENCLOSING CIRCLE=BACKSLASH;
COMBINING ENCLOSING UPWARD POINTING=TRIANGLE;COMBINING EQUALS SIGN=BELOW;COMBINING FOUR DOTS=ABOVE;
COMBINING GLAGOLITIC LETTER=AZU,BUKY,CHRIVI,DJERVI,DOBRO,FITA,FRITU,GLAGOLI,HERU,I,IZHE,KAKO,
LJUDIJE,MYSLITE,NASHI,ONU,POKOJI,RITSI,SHA,SHTA,SLOVO,TSI,TVRIDO,UKU,VEDE,YATI,YERI,YERU,YESTU,YO,
YU,ZEMLJA,ZHIVETE;COMBINING GLAGOLITIC LETTER BIG=YUS;COMBINING GLAGOLITIC LETTER INITIAL=IZHE;
COMBINING GLAGOLITIC LETTER IOTATED BIG=YUS;COMBINING GLAGOLITIC LETTER IOTATED SMALL=YUS;
COMBINING GLAGOLITIC LETTER SMALL=YUS;COMBINING GRANTHA DIGIT=FIVE,FOUR,ONE,SIX,THREE,TWO,ZERO;
COMBINING GRANTHA LETTER=A,KA,NA,PA,VI;COMBINING GRAPHEME=JOINER;COMBINING GRAVE=ACCENT;
COMBINING GRAVE ACCENT=BELOW;COMBINING GRAVE TONE=MARK;COMBINING GREEK=KORONIS,PERISPOMENI,
YPOGEGRAMMENI;COMBINING GREEK DIALYTIKA=TONOS;COMBINING GREEK MUSICAL=PENTASEME,TETRASEME,TRISEME;
COMBINING HOMOTHETIC=ABOVE;COMBINING HOOK=ABOVE;COMBINING INVERTED=BREVE;
COMBINING INVERTED BREVE=BELOW;COMBINING INVERTED BRIDGE=BELOW;
COMBINING INVERTED DOUBLE ARCH=ABOVE,BELOW;COMBINING IS=BELOW;
COMBINING KATAKANA-HIRAGANA SEMI-VOICED SOUND=MARK;COMBINING KATAKANA-HIRAGANA VOICED SOUND=MARK;
COMBINING KAVYKA ABOVE=LEFT,RIGHT;COMBINING LATIN LETTER SMALL CAPITAL=G,L,M,N,R;
COMBINING LATIN SMALL LETTER=A,AE,ALPHA,AO,AV,B,BETA,C,D,E,ESH,ETH,F,G,H,I,K,L,M,N,O,P,R,S,SCHWA,T,
U,V,W,X,Z;COMBINING LATIN SMALL LETTER A WITH=DIAERESIS;COMBINING LATIN SMALL LETTER C=CEDILLA;
COMBINING LATIN SMALL LETTER FLATTENED OPEN A=ABOVE;COMBINING LATIN SMALL LETTER INSULAR=D,G,R,T;
COMBINING LATIN SMALL LETTER L WITH DOUBLE MIDDLE=TILDE;COMBINING LATIN SMALL LETTER LONG=S;
COMBINING LATIN SMALL LETTER O WITH=DIAERESIS;
COMBINING LATIN SMALL LETTER O WITH LIGHT CENTRALIZATION=STROKE;
COMBINING LATIN SMALL LETTER R=BELOW,ROTUNDA;COMBINING LATIN SMALL LETTER TURNED W=BELOW;
COMBINING LATIN SMALL LETTER U WITH=DIAERESIS;
COMBINING LATIN SMALL LETTER U WITH LIGHT CENTRALIZATION=STROKE;
COMBINING LATIN SMALL LETTER W=BELOW;COMBINING LEFT ANGLE=ABOVE,BELOW;COMBINING LEFT ARROW=ABOVE,
BELOW;COMBINING LEFT ARROWHEAD=ABOVE,BELOW;COMBINING LEFT HALF RING=ABOVE,BELOW;
COMBINING LEFT HARPOON=ABOVE;COMBINING LEFT PARENTHESIS ABOVE=LEFT;
COMBINING LEFT PARENTHESIS BELOW=LEFT;COMBINING LEFT RIGHT ARROW=ABOVE,BELOW;
COMBINING LEFT TACK=BELOW;COMBINING LEFTWARDS ARROW=OVERLAY;
COMBINING LEFTWARDS HARPOON WITH BARB=DOWNWARDS;COMBINING LIGATURE LEFT=HALF;
COMBINING LIGATURE LEFT HALF=BELOW;COMBINING LIGATURE RIGHT=HALF;
COMBINING LIGATURE RIGHT HALF=BELOW;COMBINING LIGHT CENTRALIZATION STROKE=BELOW;
COMBINING LONG DOUBLE SOLIDUS=OVERLAY;COMBINING LONG SOLIDUS=OVERLAY;COMBINING LONG STROKE=OVERLAY;
COMBINING LONG VERTICAL LINE=OVERLAY;COMBINING LOW=LINE;COMBINING MACRON=BELOW;
COMBINING MACRON LEFT=HALF;COMBINING MACRON LEFT HALF=BELOW;COMBINING MACRON RIGHT=HALF;
COMBINING MACRON RIGHT HALF=BELOW;COMBINING MINUS SIGN=BELOW;COMBINING NOT TILDE=ABOVE;
COMBINING NUMBER SIGN=ABOVE;COMBINING OGONEK=ABOVE;COMBINING OLD PERMIC LETTER=AN,DOI,NENOE,SII,
ZATA;COMBINING OPEN MARK=BELOW;COMBINING PALATALIZED HOOK=BELOW;COMBINING PARENTHESES=ABOVE,BELOW,
OVERLAY;COMBINING PLUS SIGN=ABOVE,BELOW;COMBINING RETROFLEX HOOK=BELOW;
COMBINING REVERSE SOLIDUS=OVERLAY;COMBINING REVERSED COMMA=ABOVE;COMBINING RIGHT ARROW=ABOVE,BELOW;
COMBINING RIGHT ARROWHEAD=ABOVE,BELOW;COMBINING RIGHT ARROWHEAD AND DOWN ARROWHEAD=BELOW;
COMBINING RIGHT ARROWHEAD AND UP ARROWHEAD=BELOW;COMBINING RIGHT HALF RING=ABOVE,BELOW;
COMBINING RIGHT HARPOON=ABOVE;COMBINING RIGHT PARENTHESIS ABOVE=RIGHT;
COMBINING RIGHT PARENTHESIS BELOW=RIGHT;COMBINING RIGHT TACK=BELOW;
COMBINING RIGHTWARDS HARPOON WITH BARB=DOWNWARDS;COMBINING RING=ABOVE,BELOW,OVERLAY;
COMBINING SEAGULL=BELOW;COMBINING SHORT SOLIDUS=OVERLAY;COMBINING SHORT STROKE=OVERLAY;
COMBINING SHORT VERTICAL LINE=OVERLAY;COMBINING SNAKE=BELOW;COMBINING SQUARE=BELOW;
COMBINING SQUARE BRACKETS=ABOVE;COMBINING STRONG CENTRALIZATION STROKE=BELOW;
COMBINING SUSPENSION=MARK;COMBINING THREE DOTS=ABOVE;COMBINING TILDE=BELOW,OVERLAY;
COMBINING TILDE LEFT HALF=BELOW;COMBINING TILDE RIGHT HALF=BELOW;COMBINING TRIPLE=DOT,UNDERDOT;
COMBINING TRIPLE ACUTE=ACCENT;COMBINING TURNED COMMA=ABOVE;COMBINING UP TACK=ABOVE,BELOW;
COMBINING UPWARDS ARROW=BELOW;COMBINING UR=ABOVE;COMBINING US=ABOVE;COMBINING VERTICAL=TILDE;
COMBINING VERTICAL LINE=ABOVE,BELOW;COMBINING WIDE BRIDGE=ABOVE;
COMBINING WIDE INVERTED BRIDGE=BELOW;COMBINING WIGGLY LINE=BELOW;COMBINING X=ABOVE,BELOW;
COMBINING X-X=BELOW;COMBINING ZIGZAG=ABOVE,BELOW;COMMERCIAL=AT;COMMERCIAL MINUS=SIGN;
COMPOSITION=SYMBOL;CONFETTI=BALL;CONFOUNDED=FACE;CONFUSED=FACE;CONGRUENT WITH DOT=ABOVE;
CONICAL=TAPER;CONSTRUCTION=SIGN,WORKER;CONTAINS AS=MEMBER;CONTAINS AS NORMAL=SUBGROUP;
CONTAINS AS NORMAL SUBGROUP OR EQUAL=TO;CONTAINS WITH=OVERBAR;CONTAINS WITH LONG HORIZONTAL=STROKE;
CONTAINS WITH VERTICAL BAR AT END OF HORIZONTAL=STROKE;CONTINUOUS UNDERLINE=SYMBOL;
CONTOUR=INTEGRAL;CONTROL=KNOBS;CONTROL SEQUENCE=INTRODUCER;CONVENIENCE=STORE;COOKED=RICE;
COPTIC CAPITAL LETTER=ALFA,DALDA,DEI,EIE,FEI,FI,GAMMA,GANGIA,HATE,HORI,IAUDA,KAPA,KHEI,KHI,KSI,
LAULA,MI,NI,O,OOU,PI,PSI,RO,SAMPI,SHEI,SHIMA,SIMA,SOU,TAU,THETHE,UA,VIDA,ZATA;
COPTIC CAPITAL LETTER AKHMIMIC=KHEI;COPTIC CAPITAL LETTER BOHAIRIC=KHEI;
COPTIC CAPITAL LETTER CROSSED=SHEI;COPTIC CAPITAL LETTER CRYPTOGRAMMIC=EIE,GANGIA,NI,SHEI;
COPTIC CAPITAL LETTER DIALECT-P=ALEF,HORI,KAPA,NI;COPTIC CAPITAL LETTER L-SHAPED=HA;
COPTIC CAPITAL LETTER OLD COPTIC=AIN,DJA,ESH,GANGIA,HA,HAT,HEI,HORI,OOU,SHEI,SHIMA;
COPTIC CAPITAL LETTER OLD NUBIAN=NGI,NYI,SHIMA,WAU;COPTIC COMBINING NI=ABOVE;
COPTIC COMBINING SPIRITUS=ASPER,LENIS;COPTIC EPACT DIGIT=EIGHT,FIVE,FOUR,NINE,ONE,SEVEN,SIX,THREE,
TWO;COPTIC EPACT NUMBER=EIGHTY,FIFTY,FORTY,NINETY,SEVENTY,SIXTY,TEN,THIRTY,TWENTY;
COPTIC EPACT NUMBER EIGHT=HUNDRED;COPTIC EPACT NUMBER FIVE=HUNDRED;
COPTIC EPACT NUMBER FOUR=HUNDRED;COPTIC EPACT NUMBER NINE=HUNDRED;COPTIC EPACT NUMBER ONE=HUNDRED;
COPTIC EPACT NUMBER SEVEN=HUNDRED;COPTIC EPACT NUMBER SIX=HUNDRED;
COPTIC EPACT NUMBER THREE=HUNDRED;COPTIC EPACT NUMBER TWO=HUNDRED;COPTIC EPACT THOUSANDS=MARK;
COPTIC FRACTION ONE=HALF;COPTIC FULL=STOP;COPTIC MORPHOLOGICAL=DIVIDER;
COPTIC OLD NUBIAN DIRECT QUESTION=MARK;COPTIC OLD NUBIAN FULL=STOP;
COPTIC OLD NUBIAN INDIRECT QUESTION=MARK;COPTIC OLD NUBIAN VERSE=DIVIDER;COPTIC SMALL LETTER=ALFA,
DALDA,DEI,EIE,FEI,FI,GAMMA,GANGIA,HATE,HORI,IAUDA,KAPA,KHEI,KHI,KSI,LAULA,MI,NI,O,OOU,PI,PSI,RO,
SAMPI,SHEI,SHIMA,SIMA,SOU,TAU,THETHE,UA,VIDA,ZATA;COPTIC SMALL LETTER AKHMIMIC=KHEI;
COPTIC SMALL LETTER BOHAIRIC=KHEI;COPTIC SMALL LETTER CROSSED=SHEI;
COPTIC SMALL LETTER CRYPTOGRAMMIC=EIE,GANGIA,NI,SHEI;COPTIC SMALL LETTER DIALECT-P=ALEF,HORI,KAPA,
NI;COPTIC SMALL LETTER L-SHAPED=HA;COPTIC SMALL LETTER OLD COPTIC=AIN,DJA,ESH,GANGIA,HA,HAT,HEI,
HORI,OOU,SHEI,SHIMA;COPTIC SMALL LETTER OLD NUBIAN=NGI,NYI,SHIMA,WAU;COPTIC SYMBOL=KAI,STAUROS;
COPTIC SYMBOL KHI=RO;COPTIC SYMBOL MI=RO;COPTIC SYMBOL PI=RO;COPTIC SYMBOL SHIMA=SIMA;
COPTIC SYMBOL TAU=RO;COPYLEFT=SYMBOL;COPYRIGHT=SIGN;CORNISH VERSE=DIVIDER;CORRESPONDS=TO;
COUCH AND=LAMP;COUNTING ROD TENS DIGIT=EIGHT,FIVE,FOUR,NINE,ONE,SEVEN,SIX,THREE,TWO;
COUNTING ROD UNIT DIGIT=EIGHT,FIVE,FOUR,NINE,ONE,SEVEN,SIX,THREE,TWO;COUPLE WITH=HEART;COW=FACE;
CREDIT=CARD;CRESCENT=MOON;CRICKET BAT AND=BALL;CROSS=MARK,POMMEE;CROSS OF=JERUSALEM,LORRAINE;
CROSS PATTY WITH LEFT=CROSSBAR;CROSS PATTY WITH RIGHT=CROSSBAR;CROSS POMMEE WITH HALF-CIRCLE=BELOW;
CROSSED=FLAGS,SWORDS;CROSSED NEGATIVE SQUARED LATIN CAPITAL LETTER=P;CROSSING=LANES;CRUZEIRO=SIGN;
CRYING=FACE;CRYING CAT=FACE;CRYSTAL=BALL;CUBE=ROOT;CUNEIFORM NUMERIC SIGN=NIGIDAESH,NIGIDAMIN;
CUNEIFORM NUMERIC SIGN EIGHT=ASH,DISH,GESH2,SHAR2,U;CUNEIFORM NUMERIC SIGN EIGHT U VARIANT=FORM;
CUNEIFORM NUMERIC SIGN EIGHT VARIANT FORM=USSU,USSU3;CUNEIFORM NUMERIC SIGN ELAMITE=FIFTY,FORTY;
CUNEIFORM NUMERIC SIGN ELAMITE ONE=THIRD;CUNEIFORM NUMERIC SIGN ELAMITE TWO=THIRDS;
CUNEIFORM NUMERIC SIGN FIVE=ASH,BAN2,BURU,DISH,GESH2,GESHU,SHAR2,SHARU,U;
CUNEIFORM NUMERIC SIGN FIVE ASH=TENU;CUNEIFORM NUMERIC SIGN FIVE BAN2 VARIANT=FORM;
CUNEIFORM NUMERIC SIGN FIVE SIXTHS=DISH;CUNEIFORM NUMERIC SIGN FIVE U VARIANT=FORM;
CUNEIFORM NUMERIC SIGN FOUR=ASH,BAN2,BURU,DISH,GESH2,GESHU,SHAR2,SHARU,U;
CUNEIFORM NUMERIC SIGN FOUR ASH=TENU;CUNEIFORM NUMERIC SIGN FOUR BAN2 VARIANT=FORM;
CUNEIFORM NUMERIC SIGN FOUR U VARIANT=FORM;CUNEIFORM NUMERIC SIGN FOUR VARIANT FORM=LIMMU,LIMMU4;
CUNEIFORM NUMERIC SIGN FOUR VARIANT FORM LIMMU=A,B;CUNEIFORM NUMERIC SIGN NINE=ASH,DISH,GESH2,
SHAR2,U;CUNEIFORM NUMERIC SIGN NINE U VARIANT=FORM;CUNEIFORM NUMERIC SIGN NINE VARIANT FORM=ILIMMU,
ILIMMU3,ILIMMU4;CUNEIFORM NUMERIC SIGN NINE VARIANT FORM ILIMMU=A;
CUNEIFORM NUMERIC SIGN OLD ASSYRIAN ONE=QUARTER,SIXTH;CUNEIFORM NUMERIC SIGN ONE=BAN2,BURU,ESHE3,
GESH2,GESHU,SHARU;CUNEIFORM NUMERIC SIGN ONE EIGHTH=ASH;CUNEIFORM NUMERIC SIGN ONE HALF=GUR;
CUNEIFORM NUMERIC SIGN ONE QUARTER=ASH,GUR;CUNEIFORM NUMERIC SIGN ONE THIRD=DISH;
CUNEIFORM NUMERIC SIGN ONE THIRD VARIANT FORM=A;CUNEIFORM NUMERIC SIGN SEVEN=ASH,DISH,GESH2,SHAR2,
U;CUNEIFORM NUMERIC SIGN SEVEN U VARIANT=FORM;CUNEIFORM NUMERIC SIGN SEVEN VARIANT FORM=IMIN3;
CUNEIFORM NUMERIC SIGN SEVEN VARIANT FORM IMIN=A,B;
CUNEIFORM NUMERIC SIGN SHAR2 TIMES GAL PLUS=DISH,MIN;CUNEIFORM NUMERIC SIGN SIX=ASH,DISH,GESH2,
SHAR2,U;CUNEIFORM NUMERIC SIGN SIX ASH=TENU;CUNEIFORM NUMERIC SIGN SIX U VARIANT=FORM;
CUNEIFORM NUMERIC SIGN SIX VARIANT FORM=ASH9;CUNEIFORM NUMERIC SIGN THREE=ASH,BAN2,BURU,DISH,GESH2,
GESHU,SHAR2,SHARU;CUNEIFORM NUMERIC SIGN THREE ASH=TENU;
CUNEIFORM NUMERIC SIGN THREE BURU VARIANT=FORM;CUNEIFORM NUMERIC SIGN THREE SHAR2 VARIANT=FORM;
CUNEIFORM NUMERIC SIGN THREE SHARU VARIANT=FORM;CUNEIFORM NUMERIC SIGN THREE VARIANT FORM=ESH16,
ESH21;CUNEIFORM NUMERIC SIGN TWO=ASH,BAN2,BURU,ESHE3,GESH2,GESHU,SHAR2,SHARU;
CUNEIFORM NUMERIC SIGN TWO ASH=TENU;CUNEIFORM NUMERIC SIGN TWO THIRDS=DISH;
CUNEIFORM NUMERIC SIGN TWO THIRDS VARIANT FORM=A;CUNEIFORM PUNCTUATION SIGN DIAGONAL=COLON,
QUADCOLON,TRICOLON;CUNEIFORM PUNCTUATION SIGN OLD ASSYRIAN WORD=DIVIDER;
CUNEIFORM PUNCTUATION SIGN VERTICAL=COLON;CUNEIFORM SIGN=A,A2,AB,AB2,AD,AK,AL,ALAN,ALEPH,AMAR,AN,
ANSHE,APIN,ARAD,ARKAB,ASAL2,ASH,ASH2,ASHGAB,BA,BAD,BAG3,BAHAR2,BAL,BALAG,BAR,BARA2,BI,BU,BULUG,BUR,
BUR2,DA,DAG,DAG3,DAM,DAR,DARA3,DARA4,DI,DIB,DIM,DIM2,DIN,DISH,DU,DUB,DUB2,DUG,DUGUD,DUH,DUN,DUN3,
DUN4,DUR2,E,E2,EDIN,EGIR,EL,EN,EREN,ERIN2,ESH2,EZEN,GA,GA2,GABA,GAD,GAL,GALAM,GAM,GAN,GAN2,GAR,
GAR3,GASHAN,GE22,GESHTIN,GI,GI4,GIDIM,GIG,GIR2,GIR3,GISAL,GISH,GU,GU2,GUD,GUL,GUM,GUR,GUR7,GURUN,
GURUSH,HA,HAL,HI,HU,HUB2,HUL2,HUSH,I,IB,IDIM,IG,IGI,IL,IL2,IM,IMIN,IN,IR,ISH,KA,KA2,KAB,KAD2,KAD3,
KAD4,KAD5,KAK,KAL,KAM2,KAM4,KASKAL,KESH2,KI,KID,KIN,KISAL,KISH,KISIM5,KU,KU3,KU4,KU7,KUL,KUN,KUR,
KUSHU2,KWU318,LA,LAGAB,LAGAR,LAHSHU,LAK-003,LAK-021,LAK-025,LAK-030,LAK-050,LAK-051,LAK-062,
LAK-080,LAK-092,LAK-130,LAK-142,LAK-210,LAK-219,LAK-220,LAK-225,LAK-228,LAK-238,LAK-265,LAK-266,
LAK-343,LAK-347,LAK-348,LAK-383,LAK-384,LAK-390,LAK-441,LAK-449,LAK-450,LAK-457,LAK-470,LAK-483,
LAK-490,LAK-492,LAK-493,LAK-495,LAK-550,LAK-608,LAK-617,LAK-636,LAK-648,LAK-724,LAK-749,LAL,LAM,LI,
LIL,LIMMU2,LISH,LU,LU2,LU3,LUGAL,LUH,LUL,LUM,MA,MA2,MAH,MAR,MASH,MASH2,ME,MES,MESH,MI,MIN,MU,MUG,
MUNSUB,MURGU2,MUSH,MUSH3,NA,NA2,NA4,NAGA,NAGAR,NAM,NAM2,NE,NI,NI2,NIM,NIN,NIN9,NINDA2,NISAG,NU,
NU11,NUN,NUNUZ,PA,PAD,PAN,PAP,PESH2,PI,PIR2,PIRIG,RA,RAB,RI,RU,SA,SAG,SAL,SANGA2,SAR,SHA,SHA3,SHA6,
SHAB6,SHAR2,SHE,SHEG9,SHEN,SHESH,SHESH2,SHESHLAM,SHID,SHIM,SHINIG,SHIR,SHITA,SHU,SHU2,SHUBUR,SI,
SIG,SIG4,SIK2,SILA3,SU,SUD,SUD2,SUHUR,SUM,SUMASH,SUR,SUR9,TA,TAB,TAG,TAK4,TAR,TE,TI,TI2,TIL,TIR,TU,
TUG2,TUK,TUM,TUR,U,U2,UB,UD,UDUG,UM,UMBIN,UMUM,UN,UR,UR2,UR4,URI,URI3,URU,URUDA,USH,USH2,USHUMX,
USHX,UTUKI,UZ3,UZU,ZA,ZA7,ZAG,ZAMX,ZE2,ZI,ZI3,ZIB,ZIG,ZIZ2,ZU,ZU5,ZUBUR,ZUM;
CUNEIFORM SIGN A TIMES=A,BAD,HA,IGI,MUSH,SAG;CUNEIFORM SIGN A TIMES GAN2=TENU;
CUNEIFORM SIGN A TIMES LAGAR=GUNU;CUNEIFORM SIGN AB=GUNU;CUNEIFORM SIGN AB TIMES=ASH2,GAL,HA,IMIN,
LAGAB,NUN,SHESH,SHU2;CUNEIFORM SIGN AB TIMES DUN3=GUNU;CUNEIFORM SIGN AB TIMES GAN2=TENU;
CUNEIFORM SIGN AB TIMES IGI=GUNU;CUNEIFORM SIGN AB TIMES NUN=TENU;
CUNEIFORM SIGN AB TIMES U PLUS U PLUS=U;CUNEIFORM SIGN AB2 TIMES=A,BALAG,SHA3,TAK4;
CUNEIFORM SIGN AB2 TIMES GAN2=TENU;CUNEIFORM SIGN AB2 TIMES ME PLUS=EN;
CUNEIFORM SIGN AD TIMES=ESH2;CUNEIFORM SIGN AK TIMES=ERIN2;CUNEIFORM SIGN AK TIMES SHITA PLUS=GISH;
CUNEIFORM SIGN AL TIMES=AL,DIM2,GISH,HA,KAD3,KI,SHE,USH;CUNEIFORM SIGN AMAR TIMES=KUG,SHE;
CUNEIFORM SIGN AN OVER=AN;CUNEIFORM SIGN AN PLUS NAGA=SQUARED;
CUNEIFORM SIGN AN PLUS NAGA OPPOSING AN PLUS=NAGA;CUNEIFORM SIGN AN THREE=TIMES;
CUNEIFORM SIGN ARAD TIMES=KUR;CUNEIFORM SIGN ASH KABA=TENU;CUNEIFORM SIGN ASH OVER ASH OVER=ASH;
CUNEIFORM SIGN ASH OVER ASH OVER ASH CROSSING ASH OVER ASH OVER=ASH;
CUNEIFORM SIGN ASH OVER ASH TUG2 OVER TUG2 TUG2 OVER TUG2=PAP;CUNEIFORM SIGN ASH ZIDA=TENU;
CUNEIFORM SIGN BAD TIMES DISH=TENU;CUNEIFORM SIGN BAHAR2 TIMES=AB2,NI,ZA;
CUNEIFORM SIGN BAL OVER=BAL;CUNEIFORM SIGN BI TIMES=A,GAR;CUNEIFORM SIGN BI TIMES IGI=GUNU;
CUNEIFORM SIGN BU CROSSING=BU;CUNEIFORM SIGN BU OVER BU=AB,UN;CUNEIFORM SIGN BU OVER BU TIMES=NA2;
CUNEIFORM SIGN BULUG OVER=BULUG;CUNEIFORM SIGN DA TIMES=TAK4;CUNEIFORM SIGN DAG KISIM5 TIMES=AMAR,
BALAG,BI,GA,GI,GIR2,GUD,HA,IR,KAK,LA,LU,LUM,NE,SI,TAK4,USH;
CUNEIFORM SIGN DAG KISIM5 TIMES A PLUS=MASH;CUNEIFORM SIGN DAG KISIM5 TIMES GA PLUS=MASH;
CUNEIFORM SIGN DAG KISIM5 TIMES IR PLUS=LU;CUNEIFORM SIGN DAG KISIM5 TIMES LU PLUS=MASH2;
CUNEIFORM SIGN DAG KISIM5 TIMES PAP PLUS=PAP;CUNEIFORM SIGN DAG KISIM5 TIMES U2 PLUS=GIR2,MASH;
CUNEIFORM SIGN DAG TIMES=KUR;CUNEIFORM SIGN DIM TIMES=IGI,SHE;CUNEIFORM SIGN DIM TIMES U U=U;
CUNEIFORM SIGN DIM2 TIMES=UD;CUNEIFORM SIGN DIN KASKAL U GUNU=DISH;CUNEIFORM SIGN DISH PLUS=SHU;
CUNEIFORM SIGN DU=GUNU,SHESHIG;CUNEIFORM SIGN DU OVER=DU;CUNEIFORM SIGN DUB TIMES=ESH2,SHE;
CUNEIFORM SIGN DUG TIMES=ANSHE,ASH,DIN,DUN,ERIN2,GA,GI,GISH,HA,HI,KASKAL,KUR,KUSHU2,LAK-020,LAM,
MASH,MES,MI,NI,PI,SHE;CUNEIFORM SIGN DUG TIMES ASH AT=LEFT;CUNEIFORM SIGN DUG TIMES GIR2=GUNU;
CUNEIFORM SIGN DUG TIMES IGI=GUNU;CUNEIFORM SIGN DUG TIMES KUSHU2 PLUS=KASKAL;
CUNEIFORM SIGN DUG TIMES LAM TIMES=KUR;CUNEIFORM SIGN DUG TIMES LUH PLUS=GISH;
CUNEIFORM SIGN DUG TIMES SI=GUNU;CUNEIFORM SIGN DUN3=GUNU;CUNEIFORM SIGN DUN3 GUNU=GUNU;
CUNEIFORM SIGN E OVER E NUN OVER=NUN;CUNEIFORM SIGN E TIMES=PAP;CUNEIFORM SIGN E2 TIMES=GAR,KUR,MI,
PAP,SAL,SHE,U;CUNEIFORM SIGN E2 TIMES A PLUS HA PLUS=DA;CUNEIFORM SIGN EN=SQUARED;
CUNEIFORM SIGN EN CROSSING=EN;CUNEIFORM SIGN EN OPPOSING=EN;CUNEIFORM SIGN EN TIMES=GAN2,ME;
CUNEIFORM SIGN EN TIMES GAN2=TENU;CUNEIFORM SIGN ERIN2=X;CUNEIFORM SIGN ESH2 CROSSING=ESH2;
CUNEIFORM SIGN EZEN SHESHIG TIMES=ASH,HI,LA,LAL,ME,MES,SU;
CUNEIFORM SIGN EZEN SHESHIG TIMES IGI=GUNU;CUNEIFORM SIGN EZEN TIMES=A,AN,BAD,GUD,HA,KASKAL,KU3,LA,
LI,LU,SHE,SU,U2,UD;CUNEIFORM SIGN EZEN TIMES A PLUS=LAL;
CUNEIFORM SIGN EZEN TIMES A PLUS LAL TIMES=LAL;CUNEIFORM SIGN EZEN TIMES DUN3=GUNU;
CUNEIFORM SIGN EZEN TIMES DUN3 GUNU=GUNU;CUNEIFORM SIGN EZEN TIMES HA=GUNU;
CUNEIFORM SIGN EZEN TIMES IGI=GUNU;CUNEIFORM SIGN EZEN TIMES KASKAL=SQUARED;
CUNEIFORM SIGN EZEN TIMES LAL TIMES=LAL;CUNEIFORM SIGN GA=GUNU;CUNEIFORM SIGN GA2 OVER=GA2;
CUNEIFORM SIGN GA2 TIMES=AN,ASH,ASH2,BAD,BAHAR2,BUR,DA,DI,DUB,EL,EN,EREN,GA,GAR,GI,GI4,HAL,HUB2,
KAK,KASKAL,KID,LA,LAM,LUH,MI,MUSH,NE,NUN,PA,SAL,SAR,SHE,SHID,SHIM,SUM,TAK4,U,UD,ZIZ2;
CUNEIFORM SIGN GA2 TIMES A PLUS=HA,IGI;CUNEIFORM SIGN GA2 TIMES A PLUS DA PLUS=HA;
CUNEIFORM SIGN GA2 TIMES AB2 TENU PLUS=TAB;CUNEIFORM SIGN GA2 TIMES AN PLUS KAK PLUS=A;
CUNEIFORM SIGN GA2 TIMES ASH2 PLUS=GAL;CUNEIFORM SIGN GA2 TIMES BAR PLUS=RA;
CUNEIFORM SIGN GA2 TIMES BUR PLUS=RA;CUNEIFORM SIGN GA2 TIMES DIM=GUNU;
CUNEIFORM SIGN GA2 TIMES DIM TIMES=SHE;CUNEIFORM SIGN GA2 TIMES DUG TIMES=KASKAL;
CUNEIFORM SIGN GA2 TIMES DUG TIMES IGI=GUNU;CUNEIFORM SIGN GA2 TIMES EL PLUS=LA;
CUNEIFORM SIGN GA2 TIMES EN TIMES GAN2=TENU;CUNEIFORM SIGN GA2 TIMES GAN2=TENU;
CUNEIFORM SIGN GA2 TIMES GAR PLUS=DI,NE;CUNEIFORM SIGN GA2 TIMES GI4 PLUS=A;
CUNEIFORM SIGN GA2 TIMES GIR2 PLUS=SU;CUNEIFORM SIGN GA2 TIMES HA PLUS=A;
CUNEIFORM SIGN GA2 TIMES HA PLUS LU PLUS=ESH2;CUNEIFORM SIGN GA2 TIMES HAL PLUS=LA;
CUNEIFORM SIGN GA2 TIMES HI PLUS=LI;CUNEIFORM SIGN GA2 TIMES IGI=GUNU;
CUNEIFORM SIGN GA2 TIMES ISH PLUS HU PLUS=ASH;CUNEIFORM SIGN GA2 TIMES KID PLUS=LAL;
CUNEIFORM SIGN GA2 TIMES KU3 PLUS=AN;CUNEIFORM SIGN GA2 TIMES KUSHU2 PLUS=KASKAL;
CUNEIFORM SIGN GA2 TIMES LAM TIMES=KUR;CUNEIFORM SIGN GA2 TIMES ME PLUS=EN;
CUNEIFORM SIGN GA2 TIMES NE PLUS=E2,GI;CUNEIFORM SIGN GA2 TIMES NUN OVER=NUN;
CUNEIFORM SIGN GA2 TIMES SHE PLUS=TUR;CUNEIFORM SIGN GA2 TIMES UD PLUS=DU;
CUNEIFORM SIGN GABA CROSSING=GABA;CUNEIFORM SIGN GABA ROTATED NINETY=DEGREES;
CUNEIFORM SIGN GAD OVER GAD GAR OVER=GAR;CUNEIFORM SIGN GAL GAD OVER GAD GAR OVER=GAR;
CUNEIFORM SIGN GAN2=TENU;CUNEIFORM SIGN GAN2 CROSSING=GAN2;CUNEIFORM SIGN GAN2 OVER=GAN2;
CUNEIFORM SIGN GESHTIN TIMES=KUR,U;CUNEIFORM SIGN GI CROSSING=GI;CUNEIFORM SIGN GI TIMES=E,U;
CUNEIFORM SIGN GI4 CROSSING=GI4;CUNEIFORM SIGN GI4 OVER=GI4;CUNEIFORM SIGN GIR2=GUNU;
CUNEIFORM SIGN GIR3 TIMES=IGI,PA;CUNEIFORM SIGN GIR3 TIMES A PLUS=IGI;
CUNEIFORM SIGN GIR3 TIMES GAN2=TENU;CUNEIFORM SIGN GIR3 TIMES LU PLUS=IGI;CUNEIFORM SIGN GISH=TENU;
CUNEIFORM SIGN GISH CROSSING=GISH;CUNEIFORM SIGN GISH TIMES=BAD,TAK4;
CUNEIFORM SIGN GISH TIMES GISH CROSSING=GISH;CUNEIFORM SIGN GU CROSSING=GU;CUNEIFORM SIGN GU2=GUNU;
CUNEIFORM SIGN GU2 TIMES=KAK,NUN;CUNEIFORM SIGN GU2 TIMES IGI=GUNU;
CUNEIFORM SIGN GU2 TIMES KAK TIMES IGI=GUNU;CUNEIFORM SIGN GU2 TIMES SAL PLUS=TUG2;
CUNEIFORM SIGN GUD OVER GUD=LUGAL;CUNEIFORM SIGN GUD PLUS GISH TIMES=TAK4;
CUNEIFORM SIGN GUD TIMES=KUR;CUNEIFORM SIGN GUD TIMES A PLUS=KUR;CUNEIFORM SIGN GUM TIMES=SHE;
CUNEIFORM SIGN HA=GUNU,TENU;CUNEIFORM SIGN HA TENU=GUNU;CUNEIFORM SIGN HI TIMES=ASH,ASH2,BAD,DISH,
GAD,KIN,NUN,SHE,U;CUNEIFORM SIGN HI TIMES ASH OVER HI TIMES=ASH;CUNEIFORM SIGN HUB2 TIMES=AN,HAL,
KASKAL,LISH,UD;CUNEIFORM SIGN I=A;CUNEIFORM SIGN IDIM OVER IDIM=BUR,SQUARED;CUNEIFORM SIGN IGI=DIB,
GUNU,RI;CUNEIFORM SIGN IGI OVER IGI SHIR OVER SHIR UD OVER=UD;CUNEIFORM SIGN IL TIMES GAN2=TENU;
CUNEIFORM SIGN IM=SQUARED;CUNEIFORM SIGN IM CROSSING=IM;CUNEIFORM SIGN IM OPPOSING=IM;
CUNEIFORM SIGN IM TIMES=TAK4;CUNEIFORM SIGN KA TIMES=A,AD,ANSHE,ASH2,ASH3,BAD,BALAG,BAR,BI,BU,
ERIN2,ESH2,GA,GAL,GAR,GI,GIR2,GISH,GU,GUD,GUR7,IGI,IM,KA,KAK,KI,KID,LI,LU,LUM,ME,MI,NE,NUN,PA,PI,
RU,SA,SAR,SHA,SHE,SHID,SHU,SHUL,SIG,SUHUR,TAR,TU,U,U2,UD,UR,UR2,USH,ZI;
CUNEIFORM SIGN KA TIMES AD PLUS=KU3;CUNEIFORM SIGN KA TIMES GAN2=TENU;
CUNEIFORM SIGN KA TIMES GAR PLUS SHA3 PLUS=A;CUNEIFORM SIGN KA TIMES GISH CROSSING=GISH;
CUNEIFORM SIGN KA TIMES GISH PLUS=SAR;CUNEIFORM SIGN KA TIMES HI TIMES=ASH2;
CUNEIFORM SIGN KA TIMES ME PLUS=DU,GI,TE;CUNEIFORM SIGN KA TIMES MI PLUS=NUNUZ;
CUNEIFORM SIGN KA TIMES U U=U;CUNEIFORM SIGN KA TIMES UMUM TIMES=PA;
CUNEIFORM SIGN KA2 CROSSING=KA2;CUNEIFORM SIGN KAD5 OVER=KAD5;CUNEIFORM SIGN KAK TIMES IGI=GUNU;
CUNEIFORM SIGN KAL CROSSING=KAL;CUNEIFORM SIGN KAL TIMES=BAD;CUNEIFORM SIGN KAP=ELAMITE;
CUNEIFORM SIGN KASKAL LAGAB TIMES U OVER LAGAB TIMES=U;
CUNEIFORM SIGN KASKAL OVER KASKAL LAGAB TIMES U OVER LAGAB TIMES=U;CUNEIFORM SIGN KI TIMES=BAD,U,
UD;CUNEIFORM SIGN KISIM5 OVER=KISIM5;CUNEIFORM SIGN KU OVER HI TIMES ASH2 KU OVER HI TIMES=ASH2;
CUNEIFORM SIGN KU4 VARIANT=FORM;CUNEIFORM SIGN KUL=GUNU;CUNEIFORM SIGN KUR OPPOSING=KUR;
CUNEIFORM SIGN LAGAB=SQUARED;CUNEIFORM SIGN LAGAB TIMES=A,AL,AN,BAD,BI,DAR,EN,GA,GAR,GI,GUD,HA,HAL,
IM,KI,KIN,KU3,KUL,LAGAB,LISH,LU,LUL,ME,MUSH,NE,SHU2,SUM,TAG,TAK4,U,UD,USH;
CUNEIFORM SIGN LAGAB TIMES A PLUS=GAR,LAL;CUNEIFORM SIGN LAGAB TIMES A PLUS DA PLUS=HA;
CUNEIFORM SIGN LAGAB TIMES ASH ZIDA=TENU;CUNEIFORM SIGN LAGAB TIMES GUD PLUS=GUD;
CUNEIFORM SIGN LAGAB TIMES HI TIMES=NUN;CUNEIFORM SIGN LAGAB TIMES IGI=GUNU;
CUNEIFORM SIGN LAGAB TIMES IM PLUS=HA,LU;CUNEIFORM SIGN LAGAB TIMES KUL PLUS HI PLUS=A;
CUNEIFORM SIGN LAGAB TIMES ME PLUS=EN;CUNEIFORM SIGN LAGAB TIMES SHE PLUS=SUM;
CUNEIFORM SIGN LAGAB TIMES SHITA PLUS GISH=TENU;
CUNEIFORM SIGN LAGAB TIMES SHITA PLUS GISH PLUS=ERIN2;CUNEIFORM SIGN LAGAB TIMES SHU2 PLUS=SHU2;
CUNEIFORM SIGN LAGAB TIMES TE PLUS A PLUS SU PLUS=NA;CUNEIFORM SIGN LAGAB TIMES U PLUS=A;
CUNEIFORM SIGN LAGAB TIMES U PLUS U PLUS=U;CUNEIFORM SIGN LAGAB TIMES U2 PLUS=ASH;
CUNEIFORM SIGN LAGAB TIMES ZU OVER=ZU;CUNEIFORM SIGN LAGAR=GUNU;
CUNEIFORM SIGN LAGAR GUNU OVER LAGAR GUNU=SHE;CUNEIFORM SIGN LAGAR TIMES=SHE;
CUNEIFORM SIGN LAGAR TIMES SHE PLUS=SUM;CUNEIFORM SIGN LAK-079 OVER LAK-079=GUNU;
CUNEIFORM SIGN LAK-081 OVER=LAK-081;CUNEIFORM SIGN LAK-449 TIMES=GU,IGI;
CUNEIFORM SIGN LAK-449 TIMES PAP PLUS=LU3;CUNEIFORM SIGN LAK-449 TIMES PAP PLUS PAP PLUS=LU3;
CUNEIFORM SIGN LAK-449 TIMES U2 PLUS=BA;CUNEIFORM SIGN LAK-617 TIMES=ASH,BAD,KU3,LA,TAR,TE,U2,UD,
URUDA;CUNEIFORM SIGN LAK-617 TIMES DUN3 GUNU=GUNU;CUNEIFORM SIGN LAK-648 TIMES=DUB,GA,IGI,NI,UD,
URUDA;CUNEIFORM SIGN LAK-648 TIMES IGI=GUNU;CUNEIFORM SIGN LAK-648 TIMES PAP PLUS PAP PLUS=LU3;
CUNEIFORM SIGN LAK-648 TIMES SHESH PLUS=KI;CUNEIFORM SIGN LAL TIMES=LAL;
CUNEIFORM SIGN LAM TIMES=KUR;CUNEIFORM SIGN LAM TIMES KUR PLUS=RU;CUNEIFORM SIGN LU TIMES=BAD;
CUNEIFORM SIGN LU2=SHESHIG,SQUARED,TENU;CUNEIFORM SIGN LU2 CROSSING=LU2;
CUNEIFORM SIGN LU2 GUNU TIMES=ASH;CUNEIFORM SIGN LU2 OPPOSING=LU2;
CUNEIFORM SIGN LU2 SHESHIG TIMES=BAD;CUNEIFORM SIGN LU2 TIMES=AL,BAD,DISH,ESH2,HAL,IM,KAD2,KAD3,KI,
LAGAB,NE,NU,PAP,SHU,TAK4,TUG2;CUNEIFORM SIGN LU2 TIMES ESH2=TENU;
CUNEIFORM SIGN LU2 TIMES ESH2 PLUS=LAL;CUNEIFORM SIGN LU2 TIMES GAN2=TENU;
CUNEIFORM SIGN LU2 TIMES HI TIMES=BAD;CUNEIFORM SIGN LU2 TIMES KAD3 PLUS=ASH;
CUNEIFORM SIGN LU2 TIMES LA PLUS=ASH;CUNEIFORM SIGN LU2 TIMES ME PLUS=EN;
CUNEIFORM SIGN LU2 TIMES PAP PLUS PAP PLUS=LU3;CUNEIFORM SIGN LU2 TIMES SI PLUS=ASH;
CUNEIFORM SIGN LU2 TIMES SIK2 PLUS=BU;CUNEIFORM SIGN LUGAL=SHESHIG;
CUNEIFORM SIGN LUGAL OPPOSING=LUGAL;CUNEIFORM SIGN LUGAL OVER=LUGAL;CUNEIFORM SIGN LUM OVER=LUM;
CUNEIFORM SIGN LUM OVER LUM GAR OVER=GAR;CUNEIFORM SIGN MA=GUNU;CUNEIFORM SIGN MA TIMES=TAK4;
CUNEIFORM SIGN MI PLUS=ZA7;CUNEIFORM SIGN MU OVER=MU;CUNEIFORM SIGN MUG=GUNU;
CUNEIFORM SIGN MUSH CROSSING=MUSH;CUNEIFORM SIGN MUSH OVER=MUSH;
CUNEIFORM SIGN MUSH OVER MUSH TIMES=GA,KAK;CUNEIFORM SIGN MUSH OVER MUSH TIMES A PLUS=NA;
CUNEIFORM SIGN MUSH TIMES=A,KUR,ZA;CUNEIFORM SIGN MUSH3=GUNU;CUNEIFORM SIGN MUSH3 TIMES=A,DI,ZA;
CUNEIFORM SIGN MUSH3 TIMES A PLUS=DI;CUNEIFORM SIGN NAGA=INVERTED;
CUNEIFORM SIGN NAGA OPPOSING=NAGA;CUNEIFORM SIGN NAGA TIMES SHU=TENU;CUNEIFORM SIGN NAM=NUTILLU;
CUNEIFORM SIGN NE=SHESHIG;CUNEIFORM SIGN NE TIMES=A,UD;CUNEIFORM SIGN NI TIMES=E;
CUNEIFORM SIGN NIM TIMES GAN2=TENU;CUNEIFORM SIGN NIM TIMES GAR PLUS GAN2=TENU;
CUNEIFORM SIGN NINDA2 TIMES=AN,ASH,BAL,GI,GISH,GUD,GUL,HI,KESH2,LAK-050,MASH,NE,NUN,SHE,U,URUDA,
USH;CUNEIFORM SIGN NINDA2 TIMES ASH PLUS=ASH;CUNEIFORM SIGN NINDA2 TIMES DIM=GUNU;
CUNEIFORM SIGN NINDA2 TIMES ME PLUS GAN2=TENU;CUNEIFORM SIGN NINDA2 TIMES PAP PLUS=PAP;
CUNEIFORM SIGN NINDA2 TIMES SHE PLUS=ASH;CUNEIFORM SIGN NINDA2 TIMES SHE PLUS A=AN;
CUNEIFORM SIGN NINDA2 TIMES SHE PLUS ASH PLUS=ASH;CUNEIFORM SIGN NINDA2 TIMES U PLUS=U;
CUNEIFORM SIGN NINDA2 TIMES U2 PLUS=ASH;CUNEIFORM SIGN NU11=TENU;
CUNEIFORM SIGN NU11 OVER NU11 BUR OVER=BUR;CUNEIFORM SIGN NU11 ROTATED NINETY=DEGREES;
CUNEIFORM SIGN NUN=TENU;CUNEIFORM SIGN NUN CROSSING=NUN;
CUNEIFORM SIGN NUN CROSSING NUN LAGAR OVER=LAGAR;CUNEIFORM SIGN NUN LAGAR TIMES=GAR,MASH,SAL,USH;
CUNEIFORM SIGN NUN LAGAR TIMES SAL OVER NUN LAGAR TIMES=SAL;CUNEIFORM SIGN NUN OVER=NUN;
CUNEIFORM SIGN NUNUZ AB2 TIMES=ASHGAB,BI,DUG,GUD,KAD3,LA,NE,SILA3,U2;
CUNEIFORM SIGN NUNUZ AB2 TIMES IGI=GUNU;CUNEIFORM SIGN NUNUZ KISIM5 TIMES=BI;
CUNEIFORM SIGN NUNUZ KISIM5 TIMES BI=U;CUNEIFORM SIGN PESH2=ASTERISK;CUNEIFORM SIGN PI CROSSING=PI;
CUNEIFORM SIGN PI TIMES=A,AB,BI,BU,E,I,IB,U,U2;CUNEIFORM SIGN PIRIG OPPOSING=PIRIG;
CUNEIFORM SIGN PIRIG TIMES=KAL,UD,ZA;CUNEIFORM SIGN SAG=GUNU,NUTILLU;
CUNEIFORM SIGN SAG GUNU TIMES=HA;CUNEIFORM SIGN SAG OVER=SAG;CUNEIFORM SIGN SAG TIMES=A,DU,DUB,EN,
HA,KAK,KUR,LUM,MI,NUN,SAL,SHID,TAB,TAK4,U2,UB,UM,UR,USH;CUNEIFORM SIGN SAG TIMES IGI=GUNU;
CUNEIFORM SIGN SAG TIMES SHE AT=LEFT;CUNEIFORM SIGN SAL LAGAB TIMES=ASH2;
CUNEIFORM SIGN SHA3 TIMES=A,BAD,GISH,NE,SHU2,TUR,U;CUNEIFORM SIGN SHA3 TIMES U PLUS=A;
CUNEIFORM SIGN SHA6=TENU;CUNEIFORM SIGN SHE=HU;CUNEIFORM SIGN SHE OVER=SHE;
CUNEIFORM SIGN SHE OVER SHE GAD OVER GAD GAR OVER=GAR;
CUNEIFORM SIGN SHE OVER SHE TAB OVER TAB GAR OVER=GAR;CUNEIFORM SIGN SHE PLUS=HUB2,NAM2,SAR;
CUNEIFORM SIGN SHID TIMES=A,IM;CUNEIFORM SIGN SHIM TIMES=A,BAL,BULUG,DIN,GAR,IGI,KUSHU2,LUL,MUG,
SAL;CUNEIFORM SIGN SHIM TIMES IGI=GUNU;CUNEIFORM SIGN SHIR=TENU;
CUNEIFORM SIGN SHIR OVER SHIR BUR OVER=BUR;CUNEIFORM SIGN SHU OVER INVERTED=SHU;
CUNEIFORM SIGN SHU2 PLUS DUG TIMES=NI;CUNEIFORM SIGN SHU2 PLUS E2 TIMES=AN;CUNEIFORM SIGN SI=GUNU;
CUNEIFORM SIGN SI TIMES=TAK4;CUNEIFORM SIGN SIG4 OVER SIG4=SHU2;CUNEIFORM SIGN SU OVER=SU;
CUNEIFORM SIGN TA=ASTERISK,GUNU;CUNEIFORM SIGN TA TIMES=HI,MI;CUNEIFORM SIGN TAB=SQUARED;
CUNEIFORM SIGN TAB OVER TAB NI OVER NI DISH OVER=DISH;CUNEIFORM SIGN TAG TIMES=BI,GUD,SHE,SHU,TUG2,
UD;CUNEIFORM SIGN TAK4 PLUS=SAG;CUNEIFORM SIGN TE=GUNU;CUNEIFORM SIGN TI=TENU;
CUNEIFORM SIGN TIR OVER=TIR;CUNEIFORM SIGN TIR OVER TIR GAD OVER GAD GAR OVER=GAR;
CUNEIFORM SIGN TIR TIMES=TAK4;CUNEIFORM SIGN TUM TIMES GAN2=TENU;
CUNEIFORM SIGN TUM TIMES THREE=DISH;CUNEIFORM SIGN TUR OVER TUR ZA OVER=ZA;CUNEIFORM SIGN U=GUD,U;
CUNEIFORM SIGN U OVER U PA OVER PA GAR OVER=GAR;CUNEIFORM SIGN U OVER U SUR OVER=SUR;
CUNEIFORM SIGN U OVER U U REVERSED OVER U=REVERSED;CUNEIFORM SIGN U U=U;CUNEIFORM SIGN UD=GUNU,
KUSHU2,SHESHIG;CUNEIFORM SIGN UD SHESHIG TIMES=BAD;CUNEIFORM SIGN UD TIMES=BAD,MI;
CUNEIFORM SIGN UD TIMES U PLUS U PLUS=U;CUNEIFORM SIGN UD TIMES U PLUS U PLUS U=GUNU;
CUNEIFORM SIGN UM TIMES=LAGAB,ME,SHA3,U;CUNEIFORM SIGN UM TIMES ME PLUS=DA;
CUNEIFORM SIGN UMUM TIMES=KASKAL,PA;CUNEIFORM SIGN UN=GUNU;CUNEIFORM SIGN UR=SHESHIG;
CUNEIFORM SIGN UR CROSSING=UR;CUNEIFORM SIGN UR2=INVERTED;CUNEIFORM SIGN UR2 TIMES=AL,HA,NUN,U2,UD;
CUNEIFORM SIGN UR2 TIMES A PLUS=HA,NA;CUNEIFORM SIGN UR2 TIMES U2 PLUS=ASH,BI;
CUNEIFORM SIGN URU TIMES=A,ASHGAB,BAR,DARA3,DUN,GA,GAL,GAR,GU,HA,IGI,IM,ISH,KI,LAK-668,LU3,LUM,MIN,
PA,SHE,SIG4,TU,UD,URUDA;CUNEIFORM SIGN URU TIMES GAN2=TENU;CUNEIFORM SIGN URU TIMES U PLUS=GUD;
CUNEIFORM SIGN URUDA TIMES=U;CUNEIFORM SIGN USH TIMES=A,KU,KUR,TAK4;
CUNEIFORM SIGN UZ3 TIMES=KASKAL;CUNEIFORM SIGN ZA=TENU;CUNEIFORM SIGN ZA SQUARED TIMES=KUR;
CUNEIFORM SIGN ZI OVER=ZI;CUNEIFORM SIGN ZIB KABA=TENU;CUNEIFORM SIGN ZU OVER ZU PLUS=SAR;
CUNEIFORM SIGN ZU5 TIMES=A;CUNEIFORM SIGN ZU5 TIMES THREE DISH=TENU;CUP ON BLACK=SQUARE;
CUP WITH=STRAW;CURLING=STONE;CURLY=LOOP;CURLY BRACKET=EXTENSION;CURLY LOGICAL=AND,OR;
CURRENCY=EXCHANGE,SIGN;CURRY AND=RICE;CURVED STEM PARAGRAPH SIGN=ORNAMENT;CUT OF=MEAT;
CYPRIOT SYLLABLE=A,E,I,JA,JO,KA,KE,KI,KO,KU,LA,LE,LI,LO,LU,MA,ME,MI,MO,MU,NA,NE,NI,NO,NU,O,PA,PE,
PI,PO,PU,RA,RE,RI,RO,RU,SA,SE,SI,SO,SU,TA,TE,TI,TO,TU,U,WA,WE,WI,WO,XA,XE,ZA,ZO;
CYPRO-MINOAN SIGN=CM001,CM002,CM004,CM005,CM006,CM007,CM008,CM009,CM010,CM011,CM012,CM012B,CM013,
CM015,CM017,CM019,CM021,CM023,CM024,CM025,CM026,CM027,CM028,CM029,CM030,CM033,CM034,CM035,CM036,
CM037,CM038,CM039,CM040,CM041,CM044,CM046,CM047,CM049,CM050,CM051,CM052,CM053,CM054,CM055,CM056,
CM058,CM059,CM060,CM061,CM062,CM063,CM064,CM066,CM067,CM068,CM069,CM070,CM071,CM072,CM073,CM074,
CM075,CM075B,CM076,CM078,CM079,CM080,CM081,CM082,CM083,CM084,CM085,CM086,CM087,CM088,CM089,CM090,
CM091,CM092,CM094,CM095,CM096,CM097,CM098,CM099,CM100,CM101,CM102,CM103,CM104,CM105,CM107,CM108,
CM109,CM110,CM112,CM114,CM301,CM302;CYRILLIC=KAVYKA,PAYEROK;CYRILLIC CAPITAL LETTER=A,BE,CCHE,CHE,
DCHE,DE,DJE,DJERV,DWE,DZE,DZELO,DZHE,DZWE,DZZE,DZZHE,E,EF,EL,EM,EN,ER,ES,FITA,GHE,GJE,HA,HWE,I,IE,
IO,IOTA,IZHITSA,JE,KA,KJE,KOPPA,KSI,LHA,LJE,NJE,O,OMEGA,OT,PE,PSI,QA,RHA,SCHWA,SHA,SHCHA,SHHA,SHWE,
TCHE,TE,TSE,TSHE,TSSE,TSWE,TWE,U,UK,VE,WE,YA,YAE,YAT,YERU,YI,YN,YU,ZE,ZEMLYA,ZHE,ZHWE;
CYRILLIC CAPITAL LETTER A WITH=BREVE,DIAERESIS;CYRILLIC CAPITAL LETTER ABKHASIAN=CHE,DZE,HA;
CYRILLIC CAPITAL LETTER ABKHASIAN CHE WITH=DESCENDER;CYRILLIC CAPITAL LETTER ALEUT=KA;
CYRILLIC CAPITAL LETTER BARRED=O;CYRILLIC CAPITAL LETTER BARRED O WITH=DIAERESIS;
CYRILLIC CAPITAL LETTER BASHKIR=KA;CYRILLIC CAPITAL LETTER BIG=YUS;
CYRILLIC CAPITAL LETTER BINOCULAR=O;CYRILLIC CAPITAL LETTER BLENDED=YUS;
CYRILLIC CAPITAL LETTER BROAD=OMEGA;CYRILLIC CAPITAL LETTER BYELORUSSIAN-UKRAINIAN=I;
CYRILLIC CAPITAL LETTER CHE WITH=DESCENDER,DIAERESIS;
CYRILLIC CAPITAL LETTER CHE WITH VERTICAL=STROKE;CYRILLIC CAPITAL LETTER CLOSED LITTLE=YUS;
CYRILLIC CAPITAL LETTER CROSSED=O;CYRILLIC CAPITAL LETTER DOUBLE=O;
CYRILLIC CAPITAL LETTER DOUBLE MONOCULAR=O;CYRILLIC CAPITAL LETTER E WITH=DIAERESIS;
CYRILLIC CAPITAL LETTER EL WITH=DESCENDER,HOOK,TAIL;CYRILLIC CAPITAL LETTER EL WITH MIDDLE=HOOK;
CYRILLIC CAPITAL LETTER EM WITH=TAIL;CYRILLIC CAPITAL LETTER EN WITH=DESCENDER,HOOK,TAIL;
CYRILLIC CAPITAL LETTER EN WITH LEFT=HOOK;CYRILLIC CAPITAL LETTER EN WITH MIDDLE=HOOK;
CYRILLIC CAPITAL LETTER ER WITH=TICK;CYRILLIC CAPITAL LETTER ES WITH=DESCENDER;
CYRILLIC CAPITAL LETTER GHE WITH=DESCENDER,STROKE,UPTURN;
CYRILLIC CAPITAL LETTER GHE WITH MIDDLE=HOOK;CYRILLIC CAPITAL LETTER GHE WITH STROKE AND=HOOK;
CYRILLIC CAPITAL LETTER HA WITH=DESCENDER,HOOK,STROKE;CYRILLIC CAPITAL LETTER HARD=SIGN;
CYRILLIC CAPITAL LETTER I WITH=DIAERESIS,GRAVE,MACRON;CYRILLIC CAPITAL LETTER IE WITH=BREVE,GRAVE;
CYRILLIC CAPITAL LETTER IOTIFIED=A,E,YAT;CYRILLIC CAPITAL LETTER IOTIFIED BIG=YUS;
CYRILLIC CAPITAL LETTER IOTIFIED CLOSED LITTLE=YUS;CYRILLIC CAPITAL LETTER IOTIFIED LITTLE=YUS;
CYRILLIC CAPITAL LETTER IZHITSA WITH DOUBLE GRAVE=ACCENT;CYRILLIC CAPITAL LETTER KA WITH=DESCENDER,
HOOK,STROKE;CYRILLIC CAPITAL LETTER KA WITH VERTICAL=STROKE;CYRILLIC CAPITAL LETTER KHAKASSIAN=CHE;
CYRILLIC CAPITAL LETTER KOMI=DE,DJE,DZJE,LJE,NJE,SJE,TJE,ZJE;CYRILLIC CAPITAL LETTER LITTLE=YUS;
CYRILLIC CAPITAL LETTER MONOCULAR=O;CYRILLIC CAPITAL LETTER MONOGRAPH=UK;
CYRILLIC CAPITAL LETTER NEUTRAL=YER;CYRILLIC CAPITAL LETTER O WITH=DIAERESIS;
CYRILLIC CAPITAL LETTER OMEGA WITH=TITLO;CYRILLIC CAPITAL LETTER PE WITH=DESCENDER;
CYRILLIC CAPITAL LETTER PE WITH MIDDLE=HOOK;CYRILLIC CAPITAL LETTER REVERSED=DZE,TSE,YU,ZE;
CYRILLIC CAPITAL LETTER ROUND=OMEGA;CYRILLIC CAPITAL LETTER SCHWA WITH=DIAERESIS;
CYRILLIC CAPITAL LETTER SEMISOFT=SIGN;CYRILLIC CAPITAL LETTER SHHA WITH=DESCENDER;
CYRILLIC CAPITAL LETTER SHORT=I,U;CYRILLIC CAPITAL LETTER SHORT I WITH=TAIL;
CYRILLIC CAPITAL LETTER SOFT=DE,EL,EM,SIGN;CYRILLIC CAPITAL LETTER STRAIGHT=U;
CYRILLIC CAPITAL LETTER STRAIGHT U WITH=STROKE;CYRILLIC CAPITAL LETTER TE WITH=DESCENDER;
CYRILLIC CAPITAL LETTER TE WITH MIDDLE=HOOK;CYRILLIC CAPITAL LETTER U WITH=DIAERESIS,MACRON;
CYRILLIC CAPITAL LETTER U WITH DOUBLE=ACUTE;CYRILLIC CAPITAL LETTER UKRAINIAN=IE;
CYRILLIC CAPITAL LETTER YERU WITH=DIAERESIS;CYRILLIC CAPITAL LETTER YERU WITH BACK=YER;
CYRILLIC CAPITAL LETTER ZE WITH=DESCENDER,DIAERESIS;CYRILLIC CAPITAL LETTER ZHE WITH=BREVE,
DESCENDER,DIAERESIS;CYRILLIC CAPITAL LIGATURE A=IE;CYRILLIC CAPITAL LIGATURE EN=GHE;
CYRILLIC CAPITAL LIGATURE TE=TSE;CYRILLIC LETTER=PALOCHKA;CYRILLIC LETTER MULTIOCULAR=O;
CYRILLIC LETTER SMALL CAPITAL=EL;CYRILLIC SMALL LETTER=A,BE,CCHE,CHE,DCHE,DE,DJE,DJERV,DWE,DZE,
DZELO,DZHE,DZWE,DZZE,DZZHE,E,EF,EL,EM,EN,ER,ES,FITA,GHE,GJE,HA,HWE,I,IE,IO,IOTA,IZHITSA,JE,KA,KJE,
KOPPA,KSI,LHA,LJE,NJE,O,OMEGA,OT,PALOCHKA,PE,PSI,QA,RHA,SCHWA,SHA,SHCHA,SHHA,SHWE,TCHE,TE,TSE,TSHE,
TSSE,TSWE,TWE,U,UK,VE,WE,YA,YAE,YAT,YERU,YI,YN,YU,ZE,ZEMLYA,ZHE,ZHWE;
CYRILLIC SMALL LETTER A WITH=BREVE,DIAERESIS;CYRILLIC SMALL LETTER ABKHASIAN=CHE,DZE,HA;
CYRILLIC SMALL LETTER ABKHASIAN CHE WITH=DESCENDER;CYRILLIC SMALL LETTER ALEUT=KA;
CYRILLIC SMALL LETTER BARRED=O;CYRILLIC SMALL LETTER BARRED O WITH=DIAERESIS;
CYRILLIC SMALL LETTER BASHKIR=KA;CYRILLIC SMALL LETTER BIG=YUS;CYRILLIC SMALL LETTER BINOCULAR=O;
CYRILLIC SMALL LETTER BLENDED=YUS;CYRILLIC SMALL LETTER BROAD=OMEGA;
CYRILLIC SMALL LETTER BYELORUSSIAN-UKRAINIAN=I;CYRILLIC SMALL LETTER CHE WITH=DESCENDER,DIAERESIS;
CYRILLIC SMALL LETTER CHE WITH VERTICAL=STROKE;CYRILLIC SMALL LETTER CLOSED LITTLE=YUS;
CYRILLIC SMALL LETTER CROSSED=O;CYRILLIC SMALL LETTER DOUBLE=O;
CYRILLIC SMALL LETTER DOUBLE MONOCULAR=O;CYRILLIC SMALL LETTER E WITH=DIAERESIS;
CYRILLIC SMALL LETTER EL WITH=DESCENDER,HOOK,TAIL;CYRILLIC SMALL LETTER EL WITH MIDDLE=HOOK;
CYRILLIC SMALL LETTER EM WITH=TAIL;CYRILLIC SMALL LETTER EN WITH=DESCENDER,HOOK,TAIL;
CYRILLIC SMALL LETTER EN WITH LEFT=HOOK;CYRILLIC SMALL LETTER EN WITH MIDDLE=HOOK;
CYRILLIC SMALL LETTER ER WITH=TICK;CYRILLIC SMALL LETTER ES WITH=DESCENDER;
CYRILLIC SMALL LETTER GHE WITH=DESCENDER,STROKE,UPTURN;CYRILLIC SMALL LETTER GHE WITH MIDDLE=HOOK;
CYRILLIC SMALL LETTER GHE WITH STROKE AND=HOOK;CYRILLIC SMALL LETTER HA WITH=DESCENDER,HOOK,STROKE;
CYRILLIC SMALL LETTER HARD=SIGN;CYRILLIC SMALL LETTER I WITH=DIAERESIS,GRAVE,MACRON;
CYRILLIC SMALL LETTER IE WITH=BREVE,GRAVE;CYRILLIC SMALL LETTER IOTIFIED=A,E,YAT;
CYRILLIC SMALL LETTER IOTIFIED BIG=YUS;CYRILLIC SMALL LETTER IOTIFIED CLOSED LITTLE=YUS;
CYRILLIC SMALL LETTER IOTIFIED LITTLE=YUS;CYRILLIC SMALL LETTER IZHITSA WITH DOUBLE GRAVE=ACCENT;
CYRILLIC SMALL LETTER KA WITH=DESCENDER,HOOK,STROKE;CYRILLIC SMALL LETTER KA WITH VERTICAL=STROKE;
CYRILLIC SMALL LETTER KHAKASSIAN=CHE;CYRILLIC SMALL LETTER KOMI=DE,DJE,DZJE,LJE,NJE,SJE,TJE,ZJE;
CYRILLIC SMALL LETTER LITTLE=YUS;CYRILLIC SMALL LETTER LONG-LEGGED=DE;
CYRILLIC SMALL LETTER MONOCULAR=O;CYRILLIC SMALL LETTER MONOGRAPH=UK;
CYRILLIC SMALL LETTER NARROW=O;CYRILLIC SMALL LETTER NEUTRAL=YER;
CYRILLIC SMALL LETTER O WITH=DIAERESIS;CYRILLIC SMALL LETTER OMEGA WITH=TITLO;
CYRILLIC SMALL LETTER PE WITH=DESCENDER;CYRILLIC SMALL LETTER PE WITH MIDDLE=HOOK;
CYRILLIC SMALL LETTER REVERSED=DZE,TSE,YU,ZE;CYRILLIC SMALL LETTER ROUND=OMEGA;
CYRILLIC SMALL LETTER ROUNDED=VE;CYRILLIC SMALL LETTER SCHWA WITH=DIAERESIS;
CYRILLIC SMALL LETTER SEMISOFT=SIGN;CYRILLIC SMALL LETTER SHHA WITH=DESCENDER;
CYRILLIC SMALL LETTER SHORT=I,U;CYRILLIC SMALL LETTER SHORT I WITH=TAIL;
CYRILLIC SMALL LETTER SOFT=DE,EL,EM,SIGN;CYRILLIC SMALL LETTER STRAIGHT=U;
CYRILLIC SMALL LETTER STRAIGHT U WITH=STROKE;CYRILLIC SMALL LETTER TALL=TE,YAT;
CYRILLIC SMALL LETTER TALL HARD=SIGN;CYRILLIC SMALL LETTER TE WITH=DESCENDER;
CYRILLIC SMALL LETTER TE WITH MIDDLE=HOOK;CYRILLIC SMALL LETTER THREE-LEGGED=TE;
CYRILLIC SMALL LETTER U WITH=DIAERESIS,MACRON;CYRILLIC SMALL LETTER U WITH DOUBLE=ACUTE;
CYRILLIC SMALL LETTER UKRAINIAN=IE;CYRILLIC SMALL LETTER UNBLENDED=UK;
CYRILLIC SMALL LETTER WIDE=ES;CYRILLIC SMALL LETTER YERU WITH=DIAERESIS;
CYRILLIC SMALL LETTER YERU WITH BACK=YER;CYRILLIC SMALL LETTER ZE WITH=DESCENDER,DIAERESIS;
CYRILLIC SMALL LETTER ZHE WITH=BREVE,DESCENDER,DIAERESIS;CYRILLIC SMALL LIGATURE A=IE;
CYRILLIC SMALL LIGATURE EN=GHE;CYRILLIC SMALL LIGATURE TE=TSE;CYRILLIC THOUSANDS=SIGN;DAGGER=KNIFE;
DAGGER WITH LEFT=GUARD;DAGGER WITH RIGHT=GUARD;DALET=SYMBOL;DARK=SHADE,SUNGLASSES;DASH=SYMBOL;
DASH WITH LEFT=UPTURN;DASHED=OVERLINE;DASHED LOW=LINE;DASHED TRIANGLE-HEADED RIGHTWARDS=ARROW;
DATA LINK=ESCAPE;DEAF=PERSON;DECIDUOUS=TREE;DECIMAL EXPONENT=SYMBOL;DECIMAL SEPARATOR KEY=SYMBOL;
DECREASE FONT SIZE=SYMBOL;DEGREE=CELSIUS,FAHRENHEIT,SIGN;DELIVERY=TRUCK;DELTA EQUAL=TO;
DENTISTRY SYMBOL LIGHT DOWN AND=HORIZONTAL;DENTISTRY SYMBOL LIGHT DOWN AND HORIZONTAL WITH=CIRCLE,
TRIANGLE,WAVE;DENTISTRY SYMBOL LIGHT UP AND=HORIZONTAL;
DENTISTRY SYMBOL LIGHT UP AND HORIZONTAL WITH=CIRCLE,TRIANGLE,WAVE;
DENTISTRY SYMBOL LIGHT VERTICAL AND=WAVE;DENTISTRY SYMBOL LIGHT VERTICAL AND BOTTOM=LEFT,RIGHT;
DENTISTRY SYMBOL LIGHT VERTICAL AND TOP=LEFT,RIGHT;DENTISTRY SYMBOL LIGHT VERTICAL WITH=CIRCLE,
TRIANGLE;DEPARTMENT=STORE;DERELICT HOUSE=BUILDING;DESCENDING=NODE;DESERET CAPITAL LETTER=AY,BEE,
CHEE,DEE,EF,EL,EM,EN,ENG,ER,ES,ESH,ETH,EW,GAY,H,JEE,KAY,OI,OW,PEE,TEE,THEE,VEE,WU,YEE,ZEE,ZHEE;
DESERET CAPITAL LETTER LONG=A,AH,E,I,O,OO;DESERET CAPITAL LETTER SHORT=A,AH,E,I,O,OO;
DESERET SMALL LETTER=AY,BEE,CHEE,DEE,EF,EL,EM,EN,ENG,ER,ES,ESH,ETH,EW,GAY,H,JEE,KAY,OI,OW,PEE,TEE,
THEE,VEE,WU,YEE,ZEE,ZHEE;DESERET SMALL LETTER LONG=A,AH,E,I,O,OO;DESERET SMALL LETTER SHORT=A,AH,E,
I,O,OO;DESERT=ISLAND;DESKTOP=COMPUTER,WINDOW;DEVANAGARI=CARET,DANDA,HEADSTROKE,OM;
DEVANAGARI ABBREVIATION=SIGN;DEVANAGARI ACUTE=ACCENT;DEVANAGARI DIGIT=EIGHT,FIVE,FOUR,NINE,ONE,
SEVEN,SIX,THREE,TWO,ZERO;DEVANAGARI DOUBLE=DANDA;DEVANAGARI GAP=FILLER;DEVANAGARI GRAVE=ACCENT;
DEVANAGARI JAIN=OM;DEVANAGARI LETTER=A,AA,AI,AU,AW,AY,BA,BBA,BHA,CA,CHA,DA,DDA,DDDA,DDDHA,DDHA,DHA,
E,FA,GA,GGA,GHA,GHHA,HA,I,II,JA,JHA,JJA,KA,KHA,KHHA,LA,LLA,LLLA,MA,NA,NGA,NNA,NNNA,NYA,O,OE,OOE,PA,
PHA,QA,RA,RHA,RRA,SA,SHA,SSA,TA,THA,TTA,TTHA,U,UE,UU,UUE,VA,YA,YYA,ZA,ZHA;
DEVANAGARI LETTER CANDRA=A,E,O;DEVANAGARI LETTER GLOTTAL=STOP;DEVANAGARI LETTER HEAVY=YA;
DEVANAGARI LETTER MARWARI=DDA;DEVANAGARI LETTER SHORT=A,E,O;DEVANAGARI LETTER VOCALIC=L,LL,R,RR;
DEVANAGARI SIGN=ANUSVARA,AVAGRAHA,CANDRABINDU,NUKTA,PUSHPIKA,SIDDHAM,VIRAMA,VISARGA;
DEVANAGARI SIGN CANDRABINDU=AVAGRAHA,THREE,TWO,VIRAMA;DEVANAGARI SIGN DOUBLE CANDRABINDU=VIRAMA;
DEVANAGARI SIGN HIGH SPACING=DOT;DEVANAGARI SIGN INVERTED=CANDRABINDU;
DEVANAGARI SIGN SPACING=CANDRABINDU;DEVANAGARI STRESS SIGN=ANUDATTA,UDATTA;
DEVANAGARI VOWEL SIGN=AA,AI,AU,AW,AY,E,I,II,O,OE,OOE,U,UE,UU,UUE;DEVANAGARI VOWEL SIGN CANDRA=E,O;
DEVANAGARI VOWEL SIGN CANDRA LONG=E;DEVANAGARI VOWEL SIGN PRISHTHAMATRA=E;
DEVANAGARI VOWEL SIGN SHORT=E,O;DEVANAGARI VOWEL SIGN VOCALIC=L,LL,R,RR;DEVICE CONTROL=FOUR,ONE,
STRING,THREE,TWO;DIAMETER=SIGN;DIAMOND=OPERATOR,TARGET;DIAMOND SHAPE WITH A DOT=INSIDE;
DIAMOND WITH BOTTOM HALF=BLACK;DIAMOND WITH LEFT HALF=BLACK;DIAMOND WITH RIGHT HALF=BLACK;
DIAMOND WITH TOP HALF=BLACK;DIE=FACE-1,FACE-2,FACE-3,FACE-4,FACE-5,FACE-6;DIESEL=LOCOMOTIVE;
DIFFERENCE=BETWEEN;DIGIT=EIGHT,FIVE,FOUR,NINE,ONE,SEVEN,SIX,THREE,TWO,ZERO;DIGIT EIGHT=COMMA;
DIGIT EIGHT FULL=STOP;DIGIT FIVE=COMMA;DIGIT FIVE FULL=STOP;DIGIT FOUR=COMMA;DIGIT FOUR FULL=STOP;
DIGIT NINE=COMMA;DIGIT NINE FULL=STOP;DIGIT ONE=COMMA;DIGIT ONE FULL=STOP;DIGIT SEVEN=COMMA;
DIGIT SEVEN FULL=STOP;DIGIT SIX=COMMA;DIGIT SIX FULL=STOP;DIGIT THREE=COMMA;DIGIT THREE FULL=STOP;
DIGIT TWO=COMMA;DIGIT TWO FULL=STOP;DIGIT ZERO=COMMA;DIGIT ZERO FULL=STOP;DIGRAM FOR=EARTH;
DIGRAM FOR EARTHLY=HEAVEN,HUMAN;DIGRAM FOR GREATER=YANG,YIN;DIGRAM FOR HEAVENLY=EARTH;
DIGRAM FOR HUMAN=EARTH;DIGRAM FOR LESSER=YANG,YIN;DIMENSION=ORIGIN;
DINGBAT CIRCLED SANS-SERIF DIGIT=EIGHT,FIVE,FOUR,NINE,ONE,SEVEN,SIX,THREE,TWO,ZERO;
DINGBAT CIRCLED SANS-SERIF NUMBER=TEN;DINGBAT NEGATIVE CIRCLED DIGIT=EIGHT,FIVE,FOUR,NINE,ONE,
SEVEN,SIX,THREE,TWO;DINGBAT NEGATIVE CIRCLED NUMBER=TEN;
DINGBAT NEGATIVE CIRCLED SANS-SERIF DIGIT=EIGHT,FIVE,FOUR,NINE,ONE,SEVEN,SIX,THREE,TWO,ZERO;
DINGBAT NEGATIVE CIRCLED SANS-SERIF NUMBER=TEN;DIRECT=HIT;DIRECT CURRENT SYMBOL FORM=TWO;
DISABLED=CAR;DISAPPOINTED=FACE;DISAPPOINTED BUT RELIEVED=FACE;DISCONTINUOUS UNDERLINE=SYMBOL;
DISGUISED=FACE;DITTO=MARK;DIVES AKURU=VIRAMA;DIVES AKURU DIGIT=EIGHT,FIVE,FOUR,NINE,ONE,SEVEN,SIX,
THREE,TWO,ZERO;DIVES AKURU DOUBLE=DANDA;DIVES AKURU END OF TEXT=MARK;DIVES AKURU GAP=FILLER;
DIVES AKURU INITIAL=RA;DIVES AKURU LETTER=A,AA,BA,BHA,CA,CHA,DA,DDA,DDHA,DHA,E,GA,GHA,HA,I,II,JA,
KA,KHA,LA,LLA,MA,NA,NGA,NNA,NYA,O,PA,PHA,RA,SA,SHA,SSA,TA,THA,TTA,U,UU,VA,YA,YYA,ZA;
DIVES AKURU MEDIAL=RA,YA;DIVES AKURU PREFIXED NASAL=SIGN;DIVES AKURU SIGN=ANUSVARA,CANDRABINDU,
HALANTA,NUKTA;DIVES AKURU VOWEL SIGN=AA,AI,E,I,II,O,U,UU;DIVING=MASK;DIVISION=SIGN,SLASH,TIMES;
DIVORCE=SYMBOL;DIYA=LAMP;DIZZY=FACE,SYMBOL;DNA DOUBLE=HELIX;DO NOT LITTER=SYMBOL;
DOCUMENT WITH=PICTURE,TEXT;DOCUMENT WITH TEXT AND=PICTURE;DOES NOT=DIVIDE,FORCE,PRECEDE,PROVE,
SUCCEED;DOES NOT CONTAIN AS=MEMBER;DOES NOT CONTAIN AS NORMAL=SUBGROUP;
DOES NOT CONTAIN AS NORMAL SUBGROUP OR=EQUAL;DOES NOT DIVIDE WITH REVERSED NEGATION=SLASH;
DOES NOT PRECEDE OR=EQUAL;DOES NOT SUCCEED OR=EQUAL;DOG=FACE;DOGRA ABBREVIATION=SIGN;
DOGRA LETTER=A,AA,AI,AU,BA,BHA,CA,CHA,DA,DDA,DDHA,DHA,E,GA,GHA,HA,I,II,JA,JHA,KA,KHA,LA,MA,NA,NGA,
NNA,NYA,O,PA,PHA,RA,RRA,SA,SHA,SSA,TA,THA,TTA,TTHA,U,UU,VA,YA;DOGRA SIGN=ANUSVARA,NUKTA,VIRAMA,
VISARGA;DOGRA VOWEL SIGN=AA,AI,AU,E,I,II,O,U,UU;DOGRA VOWEL SIGN VOCALIC=R,RR;DOLLAR=SIGN;
DOMINO TILE=HORIZONTAL-00-00,HORIZONTAL-00-01,HORIZONTAL-00-02,HORIZONTAL-00-03,HORIZONTAL-00-04,
HORIZONTAL-00-05,HORIZONTAL-00-06,HORIZONTAL-01-00,HORIZONTAL-01-01,HORIZONTAL-01-02,
HORIZONTAL-01-03,HORIZONTAL-01-04,HORIZONTAL-01-05,HORIZONTAL-01-06,HORIZONTAL-02-00,
HORIZONTAL-02-01,HORIZONTAL-02-02,HORIZONTAL-02-03,HORIZONTAL-02-04,HORIZONTAL-02-05,
HORIZONTAL-02-06,HORIZONTAL-03-00,HORIZONTAL-03-01,HORIZONTAL-03-02,HORIZONTAL-03-03,
HORIZONTAL-03-04,HORIZONTAL-03-05,HORIZONTAL-03-06,HORIZONTAL-04-00,HORIZONTAL-04-01,
HORIZONTAL-04-02,HORIZONTAL-04-03,HORIZONTAL-04-04,HORIZONTAL-04-05,HORIZONTAL-04-06,
HORIZONTAL-05-00,HORIZONTAL-05-01,HORIZONTAL-05-02,HORIZONTAL-05-03,HORIZONTAL-05-04,
HORIZONTAL-05-05,HORIZONTAL-05-06,HORIZONTAL-06-00,HORIZONTAL-06-01,HORIZONTAL-06-02,
HORIZONTAL-06-03,HORIZONTAL-06-04,HORIZONTAL-06-05,HORIZONTAL-06-06,VERTICAL-00-00,VERTICAL-00-01,
VERTICAL-00-02,VERTICAL-00-03,VERTICAL-00-04,VERTICAL-00-05,VERTICAL-00-06,VERTICAL-01-00,
VERTICAL-01-01,VERTICAL-01-02,VERTICAL-01-03,VERTICAL-01-04,VERTICAL-01-05,VERTICAL-01-06,
VERTICAL-02-00,VERTICAL-02-01,VERTICAL-02-02,VERTICAL-02-03,VERTICAL-02-04,VERTICAL-02-05,
VERTICAL-02-06,VERTICAL-03-00,VERTICAL-03-01,VERTICAL-03-02,VERTICAL-03-03,VERTICAL-03-04,
VERTICAL-03-05,VERTICAL-03-06,VERTICAL-04-00,VERTICAL-04-01,VERTICAL-04-02,VERTICAL-04-03,
VERTICAL-04-04,VERTICAL-04-05,VERTICAL-04-06,VERTICAL-05-00,VERTICAL-05-01,VERTICAL-05-02,
VERTICAL-05-03,VERTICAL-05-04,VERTICAL-05-05,VERTICAL-05-06,VERTICAL-06-00,VERTICAL-06-01,
VERTICAL-06-02,VERTICAL-06-03,VERTICAL-06-04,VERTICAL-06-05,VERTICAL-06-06;
DOMINO TILE HORIZONTAL=BACK;DOMINO TILE VERTICAL=BACK;DONG=SIGN;DOT=ABOVE,MINUS,OPERATOR,PLUS;
DOTTED=CIRCLE,CROSS,FENCE,OBELOS,SOLIDUS,SQUARE;DOTTED LINE=FACE;DOTTED RIGHT-POINTING=ANGLE;
DOTTED TRANSPOSITION=MARKER;DOUBLE=DAGGER,HYPHEN,INTEGRAL,INTERSECTION,PLUS,PRECEDES,PRIME,SUBSET,
SUCCEEDS,SUPERSET,UNION;DOUBLE ACUTE=ACCENT;DOUBLE CIRCLED DIGIT=EIGHT,FIVE,FOUR,NINE,ONE,SEVEN,
SIX,THREE,TWO;DOUBLE CIRCLED NUMBER=TEN;DOUBLE COLON=EQUAL;DOUBLE CURLY=LOOP;DOUBLE DOWN=TACK;
DOUBLE EXCLAMATION=MARK;DOUBLE HIGH-REVERSED-9 QUOTATION=MARK;DOUBLE LEFT ARC GREATER-THAN=BRACKET;
DOUBLE LOGICAL=AND,OR;DOUBLE LOW=LINE;DOUBLE LOW-9 QUOTATION=MARK;
DOUBLE LOW-REVERSED-9 QUOTATION=MARK;DOUBLE NESTED=GREATER-THAN,LESS-THAN;
DOUBLE NESTED LESS-THAN WITH=UNDERBAR;DOUBLE OBLIQUE=HYPHEN;DOUBLE PRIME QUOTATION=MARK;
DOUBLE QUESTION=MARK;DOUBLE RIGHT ARC LESS-THAN=BRACKET;DOUBLE SOLIDUS=OPERATOR;
DOUBLE SQUARE=INTERSECTION,UNION;DOUBLE STACKED=COMMA;DOUBLE STROKE NOT=SIGN;
DOUBLE SUSPENSION=MARK;DOUBLE UP=TACK;DOUBLE VERTICAL=BAR,LINE;
DOUBLE VERTICAL BAR DOUBLE LEFT=TURNSTILE;DOUBLE VERTICAL BAR DOUBLE RIGHT=TURNSTILE;
DOUBLE VERTICAL BAR LEFT=TURNSTILE;DOUBLE WAVY=OVERLINE;DOUBLE-ENDED=MULTIMAP;
DOUBLE-LINE EQUAL TO OR=GREATER-THAN,LESS-THAN;DOUBLE-LINE SLANTED EQUAL TO OR=GREATER-THAN,
LESS-THAN;DOUBLE-LINE SLANTED GREATER-THAN OR EQUAL=TO;DOUBLE-LINE SLANTED LESS-THAN OR EQUAL=TO;
DOUBLE-STRUCK CAPITAL=C,GAMMA,H,N,P,PI,Q,R,Z;DOUBLE-STRUCK ITALIC CAPITAL=D;
DOUBLE-STRUCK ITALIC SMALL=D,E,I,J;DOUBLE-STRUCK N-ARY=SUMMATION;DOUBLE-STRUCK SMALL=GAMMA,PI;
DOUBLED=SYMBOL;DOUBLED FEMALE=SIGN;DOUBLED MALE=SIGN;DOVE OF=PEACE;DOWN=ARROWHEAD,TACK;
DOWN FISH=TAIL;DOWN RIGHT DIAGONAL=ELLIPSIS;DOWN TACK WITH CIRCLE=BELOW;DOWN-POINTING RED=TRIANGLE;
DOWN-POINTING SMALL RED=TRIANGLE;DOWN-POINTING TRIANGLE WITH LEFT HALF=BLACK;
DOWN-POINTING TRIANGLE WITH RIGHT HALF=BLACK;DOWNWARD FACING=HOOK;DOWNWARD FACING HOOK WITH=DOT;
DOWNWARD FACING NOTCHED=HOOK;DOWNWARD FACING NOTCHED HOOK WITH=DOT;DOWNWARDS=ANCORA,ARROW,ROCKET;
DOWNWARDS ARROW AND RIGHT ONE EIGHTH=BLOCK;DOWNWARDS ARROW FROM=BAR;
DOWNWARDS ARROW LEFTWARDS OF UPWARDS=ARROW;DOWNWARDS ARROW TO=BAR;
DOWNWARDS ARROW WITH CORNER=LEFTWARDS;DOWNWARDS ARROW WITH DOUBLE=STROKE;
DOWNWARDS ARROW WITH EQUILATERAL=ARROWHEAD;DOWNWARDS ARROW WITH HORIZONTAL=STROKE;
DOWNWARDS ARROW WITH LARGE TRIANGLE=ARROWHEAD;DOWNWARDS ARROW WITH MEDIUM TRIANGLE=ARROWHEAD;
DOWNWARDS ARROW WITH NOTCHED=TAIL;DOWNWARDS ARROW WITH SMALL EQUILATERAL=ARROWHEAD;
DOWNWARDS ARROW WITH SMALL TRIANGLE=ARROWHEAD;DOWNWARDS ARROW WITH TIP=LEFTWARDS,RIGHTWARDS;
DOWNWARDS BLACK=ARROW;DOWNWARDS BLACK CIRCLED WHITE=ARROW;DOWNWARDS COMPRESSED=ARROW;
DOWNWARDS DASHED=ARROW;DOWNWARDS DOUBLE=ARROW;DOWNWARDS FINGER-POST=ARROW;
DOWNWARDS HARPOON WITH BARB=LEFTWARDS,RIGHTWARDS;
DOWNWARDS HARPOON WITH BARB LEFT BESIDE DOWNWARDS HARPOON WITH BARB=RIGHT;
DOWNWARDS HARPOON WITH BARB LEFT BESIDE UPWARDS HARPOON WITH BARB=RIGHT;
DOWNWARDS HARPOON WITH BARB LEFT FROM=BAR;DOWNWARDS HARPOON WITH BARB LEFT TO=BAR;
DOWNWARDS HARPOON WITH BARB RIGHT FROM=BAR;DOWNWARDS HARPOON WITH BARB RIGHT TO=BAR;
DOWNWARDS HEAVY=ARROW;DOWNWARDS HEAVY COMPRESSED=ARROW;DOWNWARDS PAIRED=ARROWS;
DOWNWARDS QUADRUPLE=ARROW;DOWNWARDS SANS-SERIF=ARROW;DOWNWARDS SQUARED=ARROW;
DOWNWARDS TRIANGLE=ARROWHEAD;DOWNWARDS TRIANGLE-HEADED=ARROW;
DOWNWARDS TRIANGLE-HEADED ARROW LEFTWARDS OF UPWARDS TRIANGLE-HEADED=ARROW;
DOWNWARDS TRIANGLE-HEADED ARROW TO=BAR;DOWNWARDS TRIANGLE-HEADED ARROW WITH BOLD=SHAFT;
DOWNWARDS TRIANGLE-HEADED ARROW WITH DOUBLE HORIZONTAL=STROKE;
DOWNWARDS TRIANGLE-HEADED ARROW WITH HEAVY=SHAFT;
DOWNWARDS TRIANGLE-HEADED ARROW WITH LONG TIP=LEFTWARDS,RIGHTWARDS;
DOWNWARDS TRIANGLE-HEADED ARROW WITH MEDIUM=SHAFT;
DOWNWARDS TRIANGLE-HEADED ARROW WITH NARROW=SHAFT;
DOWNWARDS TRIANGLE-HEADED ARROW WITH VERY HEAVY=SHAFT;DOWNWARDS TRIANGLE-HEADED DASHED=ARROW;
DOWNWARDS TRIANGLE-HEADED PAIRED=ARROWS;DOWNWARDS TRIANGLE-HEADED ZIGZAG=ARROW;
DOWNWARDS TRIPLE=ARROW;DOWNWARDS TWO HEADED=ARROW;
DOWNWARDS TWO-HEADED ARROW WITH TRIANGLE=ARROWHEADS;DOWNWARDS WHITE=ARROW;
DOWNWARDS WHITE ARROW WITHIN TRIANGLE=ARROWHEAD;DOWNWARDS ZIGZAG=ARROW;DRACHMA=SIGN;
DRAFTING POINT RIGHTWARDS=ARROW;DRAGON=FACE;DRIVE SLOW=SIGN;DROMEDARY=CAMEL;DROOLING=FACE;
DROP OF=BLOOD;DRUM WITH=DRUMSTICKS;DUPLOYAN AFFIX ATTACHED=SECANT,TAIL,TANGENT;
DUPLOYAN AFFIX ATTACHED E=HOOK;DUPLOYAN AFFIX ATTACHED I=HOOK;
DUPLOYAN AFFIX ATTACHED LEFT-TO-RIGHT=SECANT;DUPLOYAN AFFIX ATTACHED TANGENT=HOOK;
DUPLOYAN AFFIX HIGH=ACUTE,CIRCLE,DOT,GRAVE,LINE,VERTICAL,WAVE;DUPLOYAN AFFIX HIGH LONG=GRAVE;
DUPLOYAN AFFIX HIGH TIGHT=ACUTE;DUPLOYAN AFFIX HIGH VERTICAL=SECANT;
DUPLOYAN AFFIX LEFT HORIZONTAL=SECANT;DUPLOYAN AFFIX LOW=ACUTE,ARROW,CIRCLE,DOT,GRAVE,LINE,
VERTICAL,WAVE;DUPLOYAN AFFIX LOW LONG=GRAVE;DUPLOYAN AFFIX LOW TIGHT=ACUTE;
DUPLOYAN AFFIX LOW VERTICAL=SECANT;DUPLOYAN AFFIX MID HORIZONTAL=SECANT;
DUPLOYAN AFFIX MID VERTICAL=SECANT;DUPLOYAN AFFIX RIGHT HORIZONTAL=SECANT;DUPLOYAN DOUBLE=MARK;
DUPLOYAN LETTER=A,AOU,B,D,DH,E,EE,EU,F,G,H,HL,I,IE,J,K,KK,L,LH,M,N,O,OA,OOH,OU,OW,P,R,RH,S,T,TH,U,
UH,UI,V,W,WA,WEI,WH,WI,WO,WOW,X,XW,YE;DUPLOYAN LETTER D=S;DUPLOYAN LETTER F=N;
DUPLOYAN LETTER G R=S;DUPLOYAN LETTER J=M,N,S;DUPLOYAN LETTER J M=S;DUPLOYAN LETTER J N=S;
DUPLOYAN LETTER J S WITH=DOT;DUPLOYAN LETTER J WITH=DOT;
DUPLOYAN LETTER J WITH DOTS INSIDE AND=ABOVE;DUPLOYAN LETTER K=M;DUPLOYAN LETTER K R=S;
DUPLOYAN LETTER LONG=I,U;DUPLOYAN LETTER M=N,S;DUPLOYAN LETTER M N=S;DUPLOYAN LETTER M WITH=DOT;
DUPLOYAN LETTER N=M,S;DUPLOYAN LETTER N M=S;DUPLOYAN LETTER N WITH=DOT;DUPLOYAN LETTER NASAL=A,I,O,
U;DUPLOYAN LETTER P=N;DUPLOYAN LETTER PERNIN=AM,AN;DUPLOYAN LETTER R=S;DUPLOYAN LETTER ROMANIAN=I,
U;DUPLOYAN LETTER S=J,K,M,N,P,S,T;DUPLOYAN LETTER S J=S;DUPLOYAN LETTER S K=R;
DUPLOYAN LETTER S P=R;DUPLOYAN LETTER S T=R;DUPLOYAN LETTER S WITH=DOT;
DUPLOYAN LETTER S WITH DOT=BELOW;DUPLOYAN LETTER SHORT=I;DUPLOYAN LETTER SLOAN=AN,DH,EE,EH,EN,J,ON,
OW,U;DUPLOYAN LETTER T=S;DUPLOYAN LETTER T R=S;DUPLOYAN LETTER U=N;DUPLOYAN LETTER VOCALIC=M;
DUPLOYAN LETTER W=R;DUPLOYAN PUNCTUATION CHINOOK FULL=STOP;DUPLOYAN SIGN O WITH=CROSS;
DUPLOYAN THICK LETTER=SELECTOR;E-MAIL=SYMBOL;EAR OF=MAIZE,RICE;EAR WITH HEARING=AID;EARTH=GROUND;
EARTH GLOBE=AMERICAS,ASIA-AUSTRALIA,EUROPE-AFRICA;EAST SYRIAC=CROSS;EDITORIAL=CORONIS;
EGYPTIAN HIEROGLYPH=A001,A002,A003,A004,A005,A005A,A006,A006A,A006B,A007,A008,A009,A010,A011,A012,
A013,A014,A014A,A015,A016,A017,A017A,A018,A019,A020,A021,A022,A023,A024,A025,A026,A027,A028,A029,
A030,A031,A032,A032A,A033,A034,A035,A036,A037,A038,A039,A040,A040A,A041,A042,A042A,A043,A043A,A044,
A045,A045A,A046,A047,A048,A049,A050,A051,A052,A053,A054,A055,A056,A057,A058,A059,A060,A061,A062,
A063,A064,A065,A066,A067,A068,A069,A070,AA001,AA002,AA003,AA004,AA005,AA006,AA007,AA007A,AA007B,
AA008,AA009,AA010,AA011,AA012,AA013,AA014,AA015,AA016,AA017,AA018,AA019,AA020,AA021,AA022,AA023,
AA024,AA025,AA026,AA027,AA028,AA029,AA030,AA031,AA032,B001,B002,B003,B004,B005,B005A,B006,B007,
B008,B009,C001,C002,C002A,C002B,C002C,C003,C004,C005,C006,C007,C008,C009,C010,C010A,C011,C012,C013,
C014,C015,C016,C017,C018,C019,C020,C021,C022,C023,C024,D001,D002,D003,D004,D005,D006,D007,D008,
D008A,D009,D010,D011,D012,D013,D014,D015,D016,D017,D018,D019,D020,D021,D022,D023,D024,D025,D026,
D027,D027A,D028,D029,D030,D031,D031A,D032,D033,D034,D034A,D035,D036,D037,D038,D039,D040,D041,D042,
D043,D044,D045,D046,D046A,D047,D048,D048A,D049,D050,D050A,D050B,D050C,D050D,D050E,D050F,D050G,
D050H,D050I,D051,D052,D052A,D053,D054,D054A,D055,D056,D057,D058,D059,D060,D061,D062,D063,D064,D065,
D066,D067,D067A,D067B,D067C,D067D,D067E,D067F,D067G,D067H,E001,E002,E003,E004,E005,E006,E007,E008,
E008A,E009,E009A,E010,E011,E012,E013,E014,E015,E016,E016A,E017,E017A,E018,E019,E020,E020A,E021,
E022,E023,E024,E025,E026,E027,E028,E028A,E029,E030,E031,E032,E033,E034,E034A,E036,E037,E038,F001,
F001A,F002,F003,F004,F005,F006,F007,F008,F009,F010,F011,F012,F013,F013A,F014,F015,F016,F017,F018,
F019,F020,F021,F021A,F022,F023,F024,F025,F026,F027,F028,F029,F030,F031,F031A,F032,F033,F034,F035,
F036,F037,F037A,F038,F038A,F039,F040,F041,F042,F043,F044,F045,F045A,F046,F046A,F047,F047A,F048,
F049,F050,F051,F051A,F051B,F051C,F052,F053,G001,G002,G003,G004,G005,G006,G006A,G007,G007A,G007B,
G008,G009,G010,G011,G011A,G012,G013,G014,G015,G016,G017,G018,G019,G020,G020A,G021,G022,G023,G024,
G025,G026,G026A,G027,G028,G029,G030,G031,G032,G033,G034,G035,G036,G036A,G037,G037A,G038,G039,G040,
G041,G042,G043,G043A,G044,G045,G045A,G046,G047,G048,G049,G050,G051,G052,G053,G054,H001,H002,H003,
H004,H005,H006,H006A,H007,H008,I001,I002,I003,I004,I005,I005A,I006,I007,I008,I009,I009A,I010,I010A,
I011,I011A,I012,I013,I014,I015,K001,K002,K003,K004,K005,K006,K007,K008,L001,L002,L002A,L003,L004,
L005,L006,L006A,L007,L008,M001,M001A,M001B,M002,M003,M003A,M004,M005,M006,M007,M008,M009,M010,
M010A,M011,M012,M012A,M012B,M012C,M012D,M012E,M012F,M012G,M012H,M013,M014,M015,M015A,M016,M016A,
M017,M017A,M018,M019,M020,M021,M022,M022A,M023,M024,M024A,M025,M026,M027,M028,M028A,M029,M030,M031,
M031A,M032,M033,M033A,M033B,M034,M035,M036,M037,M038,M039,M040,M040A,M041,M042,M043,M044,N001,N002,
N003,N004,N005,N006,N007,N008,N009,N010,N011,N012,N013,N014,N015,N016,N017,N018,N018A,N018B,N019,
N020,N021,N022,N023,N024,N025,N025A,N026,N027,N028,N029,N030,N031,N032,N033,N033A,N034,N034A,N035,
N035A,N036,N037,N037A,N038,N039,N040,N041,N042,NL001,NL002,NL003,NL004,NL005,NL005A,NL006,NL007,
NL008,NL009,NL010,NL011,NL012,NL013,NL014,NL015,NL016,NL017,NL017A,NL018,NL019,NL020,NU001,NU002,
NU003,NU004,NU005,NU006,NU007,NU008,NU009,NU010,NU010A,NU011,NU011A,NU012,NU013,NU014,NU015,NU016,
NU017,NU018,NU018A,NU019,NU020,NU021,NU022,NU022A,O001,O001A,O002,O003,O004,O005,O005A,O006,O006A,
O006B,O006C,O006D,O006E,O006F,O007,O008,O009,O010,O010A,O010B,O010C,O011,O012,O013,O014,O015,O016,
O017,O018,O019,O019A,O020,O020A,O021,O022,O023,O024,O024A,O025,O025A,O026,O027,O028,O029,O029A,
O030,O030A,O031,O032,O033,O033A,O034,O035,O036,O036A,O036B,O036C,O036D,O037,O038,O039,O040,O041,
O042,O043,O044,O045,O046,O047,O048,O049,O050,O050A,O050B,O051,P001,P001A,P002,P003,P003A,P004,P005,
P006,P007,P008,P009,P010,P011,Q001,Q002,Q003,Q004,Q005,Q006,Q007,R001,R002,R002A,R003,R003A,R003B,
R004,R005,R006,R007,R008,R009,R010,R010A,R011,R012,R013,R014,R015,R016,R016A,R017,R018,R019,R020,
R021,R022,R023,R024,R025,R026,R027,R028,R029,S001,S002,S002A,S003,S004,S005,S006,S006A,S007,S008,
S009,S010,S011,S012,S013,S014,S014A,S014B,S015,S016,S017,S017A,S018,S019,S020,S021,S022,S023,S024,
S025,S026,S026A,S026B,S027,S028,S029,S030,S031,S032,S033,S034,S035,S035A,S036,S037,S038,S039,S040,
S041,S042,S043,S044,S045,S046,T001,T002,T003,T003A,T004,T005,T006,T007,T007A,T008,T008A,T009,T009A,
T010,T011,T011A,T012,T013,T014,T015,T016,T016A,T017,T018,T019,T020,T021,T022,T023,T024,T025,T026,
T027,T028,T029,T030,T031,T032,T032A,T033,T033A,T034,T035,T036,U001,U002,U003,U004,U005,U006,U006A,
U006B,U007,U008,U009,U010,U011,U012,U013,U014,U015,U016,U017,U018,U019,U020,U021,U022,U023,U023A,
U024,U025,U026,U027,U028,U029,U029A,U030,U031,U032,U032A,U033,U034,U035,U036,U037,U038,U039,U040,
U041,U042,V001,V001A,V001B,V001C,V001D,V001E,V001F,V001G,V001H,V001I,V002,V002A,V003,V004,V005,
V006,V007,V007A,V007B,V008,V009,V010,V011,V011A,V011B,V011C,V012,V012A,V012B,V013,V014,V015,V016,
V017,V018,V019,V020,V020A,V020B,V020C,V020D,V020E,V020F,V020G,V020H,V020I,V020J,V020K,V020L,V021,
V022,V023,V023A,V024,V025,V026,V027,V028,V028A,V029,V029A,V030,V030A,V031,V031A,V032,V033,V033A,
V034,V035,V036,V037,V037A,V038,V039,V040,V040A,W001,W002,W003,W003A,W004,W005,W006,W007,W008,W009,
W009A,W010,W010A,W011,W012,W013,W014,W014A,W015,W016,W017,W017A,W018,W018A,W019,W020,W021,W022,
W023,W024,W024A,W025,X001,X002,X003,X004,X004A,X004B,X005,X006,X006A,X007,X008,X008A,Y001,Y001A,
Y002,Y003,Y004,Y005,Y006,Y007,Y008,Z001,Z002,Z002A,Z002B,Z002C,Z002D,Z003,Z003A,Z003B,Z004,Z004A,
Z005,Z005A,Z006,Z007,Z008,Z009,Z010,Z011,Z012,Z013,Z014,Z015,Z015A,Z015B,Z015C,Z015D,Z015E,Z015F,
Z015G,Z015H,Z015I,Z016,Z016A,Z016B,Z016C,Z016D,Z016E,Z016F,Z016G,Z016H;
EGYPTIAN HIEROGLYPH BEGIN=SEGMENT;EGYPTIAN HIEROGLYPH END=SEGMENT;
EGYPTIAN HIEROGLYPH HORIZONTAL=JOINER;EGYPTIAN HIEROGLYPH INSERT AT BOTTOM=END,START;
EGYPTIAN HIEROGLYPH INSERT AT TOP=END,START;EGYPTIAN HIEROGLYPH OVERLAY=MIDDLE;
EGYPTIAN HIEROGLYPH VERTICAL=JOINER;EIGHT PETALLED OUTLINED BLACK=FLORETTE;
EIGHT POINTED BLACK=STAR;EIGHT POINTED PINWHEEL=STAR;EIGHT POINTED RECTILINEAR BLACK=STAR;
EIGHT SPOKED=ASTERISK;EIGHT TEARDROP-SPOKED PROPELLER=ASTERISK;EIGHTH=NOTE;EJECT=SYMBOL;
ELBASAN LETTER=A,BE,CE,CHE,DE,DHE,E,EI,FE,GE,GHAMMA,GHE,GJE,HE,I,JE,KE,KHE,LE,LLE,ME,NA,NDE,NE,NJE,
O,PE,QE,RE,RRE,SE,SHE,TE,THE,U,VE,XE,Y,ZE,ZHE;ELECTRIC=ARROW,PLUG,TORCH;ELECTRIC LIGHT=BULB;
ELECTRICAL=INTERSECTION;ELEMENT=OF;ELEMENT OF OPENING=DOWNWARDS,UPWARDS;ELEMENT OF WITH=OVERBAR,
UNDERBAR;ELEMENT OF WITH DOT=ABOVE;ELEMENT OF WITH LONG HORIZONTAL=STROKE;
ELEMENT OF WITH TWO HORIZONTAL=STROKES;ELEMENT OF WITH VERTICAL BAR AT END OF HORIZONTAL=STROKE;
ELYMAIC LETTER=ALEPH,AYIN,BETH,DALETH,GIMEL,HE,HETH,KAPH,LAMEDH,MEM,NUN,PE,QOPH,RESH,SADHE,SAMEKH,
SHIN,TAW,TETH,WAW,YODH,ZAYIN;ELYMAIC LIGATURE=ZAYIN-YODH;EM=DASH,QUAD,SPACE;EMOJI COMPONENT=BALD;
EMOJI COMPONENT CURLY=HAIR;EMOJI COMPONENT RED=HAIR;EMOJI COMPONENT WHITE=HAIR;
EMOJI MODIFIER FITZPATRICK=TYPE-1-2,TYPE-3,TYPE-4,TYPE-5,TYPE-6;EMPHASIS=SYMBOL;EMPTY=DOCUMENT,
NEST,NOTE,PAGE,PAGES,SET;EMPTY NOTE=PAD,PAGE;EMPTY SET WITH=OVERBAR;
EMPTY SET WITH LEFT ARROW=ABOVE;EMPTY SET WITH RIGHT ARROW=ABOVE;EMPTY SET WITH SMALL CIRCLE=ABOVE;
EN=DASH,QUAD,SPACE;END OF=LINE,MEDIUM,PROOF,TEXT,TRANSMISSION;END OF GUARDED=AREA;
END OF PROTECTED=AREA;END OF SELECTED=AREA;END OF TRANSMISSION=BLOCK;
END WITH LEFTWARDS ARROW=ABOVE;ENTER=SYMBOL;ENVELOPE WITH=LIGHTNING;
ENVELOPE WITH DOWNWARDS ARROW=ABOVE;EQUAL AND PARALLEL=TO;EQUAL TO BY=DEFINITION;
EQUAL TO OR=GREATER-THAN,LESS-THAN,PRECEDES,SUCCEEDS;EQUALS=COLON,SIGN;
EQUALS SIGN ABOVE LEFTWARDS=ARROW;EQUALS SIGN ABOVE PLUS=SIGN;EQUALS SIGN ABOVE RIGHTWARDS=ARROW;
EQUALS SIGN ABOVE TILDE=OPERATOR;EQUALS SIGN AND SLANTED=PARALLEL;
EQUALS SIGN AND SLANTED PARALLEL WITH TILDE=ABOVE;EQUALS SIGN WITH BUMPY=ABOVE;
EQUALS SIGN WITH DOT=BELOW;EQUALS SIGN WITH INFINITY=BELOW;
EQUALS SIGN WITH TWO DOTS ABOVE AND TWO DOTS=BELOW;EQUALS WITH=ASTERISK;EQUIANGULAR=TO;
EQUIVALENT=TO;EQUIVALENT WITH FOUR DOTS=ABOVE;ERASE TO THE=LEFT,RIGHT;ERIS FORM=ONE,TWO;
ERROR-BARRED BLACK=CIRCLE,DIAMOND,SQUARE;ERROR-BARRED WHITE=CIRCLE,DIAMOND,SQUARE;ESTIMATED=SYMBOL;
ETHIOPIC=COLON,COMMA,SEMICOLON,WORDSPACE;ETHIOPIC COMBINING GEMINATION=MARK;
ETHIOPIC COMBINING GEMINATION AND VOWEL LENGTH=MARK;ETHIOPIC COMBINING VOWEL LENGTH=MARK;
ETHIOPIC DIGIT=EIGHT,FIVE,FOUR,NINE,ONE,SEVEN,SIX,THREE,TWO;ETHIOPIC FULL=STOP;
ETHIOPIC NUMBER=EIGHTY,FIFTY,FORTY,HUNDRED,NINETY,SEVENTY,SIXTY,TEN,THIRTY,TWENTY;
ETHIOPIC NUMBER TEN=THOUSAND;ETHIOPIC PARAGRAPH=SEPARATOR;ETHIOPIC PREFACE=COLON;
ETHIOPIC QUESTION=MARK;ETHIOPIC SECTION=MARK;ETHIOPIC SYLLABLE=BA,BAA,BBA,BBAA,BBE,BBEE,BBI,BBO,
BBU,BE,BEE,BI,BO,BOA,BU,BWA,BWE,BWEE,BWI,CA,CAA,CCA,CCAA,CCE,CCEE,CCHA,CCHAA,CCHE,CCHEE,CCHHA,
CCHHAA,CCHHE,CCHHEE,CCHHI,CCHHO,CCHHU,CCHI,CCHO,CCHU,CCI,CCO,CCU,CE,CEE,CHA,CHAA,CHE,CHEE,CHI,CHO,
CHOA,CHU,CHWA,CI,CO,COA,CU,CWA,DA,DAA,DDA,DDAA,DDE,DDEE,DDHAA,DDHE,DDHEE,DDHI,DDHO,DDHU,DDI,DDO,
DDOA,DDU,DDWA,DE,DEE,DI,DO,DOA,DU,DWA,DZAA,DZE,DZEE,DZI,DZO,DZU,FA,FAA,FE,FEE,FI,FO,FU,FWA,FWE,
FWEE,FWI,FYA,GA,GAA,GE,GEE,GGA,GGAA,GGE,GGEE,GGI,GGO,GGU,GGWA,GGWAA,GGWE,GGWEE,GGWI,GI,GO,GOA,GU,
GWA,GWAA,GWE,GWEE,GWI,GYA,GYAA,GYE,GYEE,GYI,GYO,GYU,HA,HAA,HE,HEE,HHA,HHAA,HHE,HHEE,HHI,HHO,HHU,
HHWA,HHWE,HHWEE,HHWI,HHYA,HHYAA,HHYE,HHYEE,HHYI,HHYO,HHYU,HI,HO,HOA,HU,JA,JAA,JE,JEE,JI,JO,JOA,JU,
JWA,KA,KAA,KE,KEE,KI,KO,KOA,KU,KWA,KWAA,KWE,KWEE,KWI,KXA,KXAA,KXE,KXEE,KXI,KXO,KXU,KXWA,KXWAA,KXWE,
KXWEE,KXWI,KYA,KYAA,KYE,KYEE,KYI,KYO,KYU,LA,LAA,LE,LEE,LI,LO,LOA,LU,LWA,MA,MAA,ME,MEE,MI,MO,MOA,MU,
MWA,MWE,MWEE,MWI,MYA,NA,NAA,NE,NEE,NI,NO,NOA,NU,NWA,NYA,NYAA,NYE,NYEE,NYI,NYO,NYOA,NYU,NYWA,PA,PAA,
PE,PEE,PHA,PHAA,PHE,PHEE,PHI,PHO,PHOA,PHU,PHWA,PI,PO,POA,PU,PWA,PWE,PWEE,PWI,QA,QAA,QE,QEE,QHA,
QHAA,QHE,QHEE,QHI,QHO,QHU,QHWA,QHWAA,QHWE,QHWEE,QHWI,QI,QO,QOA,QU,QWA,QWAA,QWE,QWEE,QWI,QYA,QYAA,
QYE,QYEE,QYI,QYO,QYU,RA,RAA,RE,REE,RI,RO,ROA,RU,RWA,RYA,SA,SAA,SE,SEE,SHA,SHAA,SHE,SHEE,SHI,SHO,
SHOA,SHU,SHWA,SI,SO,SOA,SSA,SSAA,SSE,SSEE,SSI,SSO,SSU,SU,SWA,SZA,SZAA,SZE,SZEE,SZI,SZO,SZU,SZWA,TA,
TAA,TE,TEE,THA,THAA,THE,THEE,THI,THO,THOA,THU,THWA,TI,TO,TOA,TSA,TSAA,TSE,TSEE,TSI,TSO,TSU,TSWA,
TTHAA,TTHE,TTHEE,TTHI,TTHO,TTHU,TU,TWA,TZA,TZAA,TZE,TZEE,TZI,TZO,TZOA,TZU,VA,VAA,VE,VEE,VI,VO,VU,
VWA,WA,WAA,WE,WEE,WI,WO,WOA,WU,XA,XAA,XE,XEE,XI,XO,XOA,XU,XWA,XWAA,XWE,XWEE,XWI,XYA,XYAA,XYE,XYEE,
XYI,XYO,XYU,YA,YAA,YE,YEE,YI,YO,YOA,YU,ZA,ZAA,ZE,ZEE,ZHA,ZHAA,ZHE,ZHEE,ZHI,ZHO,ZHU,ZHWA,ZI,ZO,ZOA,
ZU,ZWA,ZZA,ZZAA,ZZE,ZZEE,ZZI,ZZO,ZZU;ETHIOPIC SYLLABLE GLOTTAL=A,AA,E,EE,I,O,OA,U,WA;
ETHIOPIC SYLLABLE GURAGE=BWEE,BWI,FWEE,FWI,GWE,GWEE,GWI,HHWA,KWE,KWEE,KWI,MWEE,MWI,PWEE,PWI,QWE,
QWEE,QWI;ETHIOPIC SYLLABLE PHARYNGEAL=A,AA,E,EE,I,O,U;ETHIOPIC SYLLABLE SEBATBEIT=BWA,FWA,MWA,PWA;
ETHIOPIC TONAL MARK=CHIRET,DERET,DERET-HIDET,DIFAT,HIDET,KENAT,KURT,RIKRIK,YIZET;
ETHIOPIC TONAL MARK SHORT=RIKRIK;EULER=CONSTANT;EURO=SIGN;EURO-CURRENCY=SIGN;EUROPEAN=CASTLE;
EUROPEAN POST=OFFICE;EVERGREEN=TREE;EXCLAMATION=MARK;EXCLAMATION QUESTION=MARK;EXPRESSIONLESS=FACE;
EXTENDED ARABIC-INDIC DIGIT=EIGHT,FIVE,FOUR,NINE,ONE,SEVEN,SIX,THREE,TWO,ZERO;
EXTRATERRESTRIAL=ALIEN;EXTREMELY HEAVY=SALTIRE;EXTREMELY HEAVY FIVE SPOKED=ASTERISK;
EXTREMELY HEAVY GREEK=CROSS;EXTREMELY HEAVY SIX SPOKED=ASTERISK;EXTREMELY HEAVY WHITE=CIRCLE,
SQUARE;FACE=MASSAGE,PALM;FACE HOLDING BACK=TEARS;FACE SAVOURING DELICIOUS=FOOD;
FACE SCREAMING IN=FEAR;FACE THROWING A=KISS;FACE WITH=HEAD-BANDAGE,MONOCLE,THERMOMETER;
FACE WITH COLD=SWEAT;FACE WITH COWBOY=HAT;FACE WITH DIAGONAL=MOUTH;
FACE WITH FINGER COVERING CLOSED=LIPS;FACE WITH LOOK OF=TRIUMPH;FACE WITH MEDICAL=MASK;
FACE WITH NO GOOD=GESTURE;FACE WITH OK=GESTURE;FACE WITH ONE EYEBROW=RAISED;FACE WITH OPEN=MOUTH;
FACE WITH OPEN EYES AND HAND OVER=MOUTH;FACE WITH OPEN MOUTH=VOMITING;
FACE WITH OPEN MOUTH AND COLD=SWEAT;FACE WITH PARTY HORN AND PARTY=HAT;FACE WITH PEEKING=EYE;
FACE WITH PLEADING=EYES;FACE WITH ROLLING=EYES;FACE WITH STUCK-OUT=TONGUE;
FACE WITH STUCK-OUT TONGUE AND TIGHTLY-CLOSED=EYES;FACE WITH STUCK-OUT TONGUE AND WINKING=EYE;
FACE WITH TEARS OF=JOY;FACE WITH UNEVEN EYES AND WAVY=MOUTH;FACE WITHOUT=MOUTH;FACSIMILE=SIGN;
FALLEN=LEAF;FALLING DIAGONAL CROSSING NORTH EAST=ARROW;FALLING DIAGONAL CROSSING RISING=DIAGONAL;
FALLING DIAGONAL IN WHITE CIRCLE IN BLACK=SQUARE;FARSI=SYMBOL;FATHER=CHRISTMAS;FAX=ICON,MACHINE;
FEARFUL=FACE;FEMALE=SIGN;FEMININE ORDINAL=INDICATOR;FERRIS=WHEEL;FIELD HOCKEY STICK AND=BALL;
FIGURE=DASH,SPACE;FILE=CABINET,FOLDER,SEPARATOR;FILM=FRAMES,PROJECTOR;FINITE PART=INTEGRAL;
FIRE=ENGINE,EXTINGUISHER;FIREWORK=SPARKLER;FIRST PLACE=MEDAL;FIRST QUARTER=MOON;
FIRST QUARTER MOON=SYMBOL;FIRST QUARTER MOON WITH=FACE;FIRST STRONG=ISOLATE;
FISH CAKE WITH SWIRL=DESIGN;FISHING POLE AND=FISH;FISTED HAND=SIGN;FIVE DOT=MARK,PUNCTUATION;
FLAG IN=HOLE;FLAT=SHOE;FLEXED=BICEPS;FLOPPY=DISK;FLORAL=HEART;FLOWER PLAYING=CARDS;
FLOWER PUNCTUATION=MARK;FLUSHED=FACE;FLYING=DISC,ENVELOPE,SAUCER;FOR=ALL;FORK AND=KNIFE;
FORK AND KNIFE WITH=PLATE;FORKED=PARAGRAPHOS;FORM=FEED;FORTUNE=COOKIE;FOUR BALLOON-SPOKED=ASTERISK;
FOUR CLUB-SPOKED=ASTERISK;FOUR CORNER ARROWS CIRCLING=ANTICLOCKWISE;FOUR DOT=MARK,PUNCTUATION;
FOUR LEAF=CLOVER;FOUR POINTED BLACK=STAR;FOUR TEARDROP-SPOKED=ASTERISK;FOUR-PER-EM=SPACE;
FOURTH=ROOT;FOX=FACE;FRACTION=SLASH;FRACTION NUMERATOR=ONE;FRAME WITH=PICTURE,TILES;
FRAME WITH AN=X;FREEZING=FACE;FRENCH=FRIES;FRENCH FRANC=SIGN;FRIED=SHRIMP;FROG=FACE;
FRONT-FACING BABY=CHICK;FRONT-TILTED SHADOWED WHITE RIGHTWARDS=ARROW;FROWNING FACE WITH OPEN=MOUTH;
FUEL=PUMP;FULL=BLOCK,STOP;FULL MOON=SYMBOL;FULL MOON WITH=FACE;FULL OUTER=JOIN;FULLWIDTH=AMPERSAND,
APOSTROPHE,ASTERISK,COLON,COMMA,HYPHEN-MINUS,MACRON,SEMICOLON,SOLIDUS,TILDE;FULLWIDTH BROKEN=BAR;
FULLWIDTH CENT=SIGN;FULLWIDTH CIRCUMFLEX=ACCENT;FULLWIDTH COMMERCIAL=AT;FULLWIDTH DIGIT=EIGHT,FIVE,
FOUR,NINE,ONE,SEVEN,SIX,THREE,TWO,ZERO;FULLWIDTH DOLLAR=SIGN;FULLWIDTH EQUALS=SIGN;
FULLWIDTH EXCLAMATION=MARK;FULLWIDTH FULL=STOP;FULLWIDTH GRAVE=ACCENT;FULLWIDTH GREATER-THAN=SIGN;
FULLWIDTH LATIN CAPITAL LETTER=A,B,C,D,E,F,G,H,I,J,K,L,M,N,O,P,Q,R,S,T,U,V,W,X,Y,Z;
FULLWIDTH LATIN SMALL LETTER=A,B,C,D,E,F,G,H,I,J,K,L,M,N,O,P,Q,R,S,T,U,V,W,X,Y,Z;
FULLWIDTH LEFT=PARENTHESIS;FULLWIDTH LEFT CURLY=BRACKET;FULLWIDTH LEFT SQUARE=BRACKET;
FULLWIDTH LEFT WHITE=PARENTHESIS;FULLWIDTH LESS-THAN=SIGN;FULLWIDTH LOW=LINE;FULLWIDTH NOT=SIGN;
FULLWIDTH NUMBER=SIGN;FULLWIDTH PERCENT=SIGN;FULLWIDTH PLUS=SIGN;FULLWIDTH POUND=SIGN;
FULLWIDTH QUESTION=MARK;FULLWIDTH QUOTATION=MARK;FULLWIDTH REVERSE=SOLIDUS;
FULLWIDTH RIGHT=PARENTHESIS;FULLWIDTH RIGHT CURLY=BRACKET;FULLWIDTH RIGHT SQUARE=BRACKET;
FULLWIDTH RIGHT WHITE=PARENTHESIS;FULLWIDTH VERTICAL=LINE;FULLWIDTH WON=SIGN;FULLWIDTH YEN=SIGN;
FUNCTION=APPLICATION;FUNERAL=URN;GAME=DIE;GEAR WITH=HANDLES;GEAR WITHOUT=HUB;GEM=STONE;
GEOMETRIC=PROPORTION;GEOMETRICALLY EQUAL=TO;GEOMETRICALLY EQUIVALENT=TO;
GEORGIAN CAPITAL LETTER=AEN,AN,BAN,CAN,CHAR,CHIN,CIL,DON,EN,GAN,GHAN,HAE,HAR,HE,HIE,HOE,IN,JHAN,
JIL,KAN,KHAR,LAS,MAN,NAR,ON,PAR,PHAR,QAR,RAE,SAN,SHIN,TAN,TAR,UN,VIN,WE,XAN,YN,ZEN,ZHAR;
GEORGIAN LETTER=AEN,AIN,AN,BAN,CAN,CHAR,CHIN,CIL,DON,ELIFI,EN,FI,GAN,GHAN,HAE,HAR,HE,HIE,HOE,IN,
JHAN,JIL,KAN,KHAR,LAS,MAN,NAR,ON,PAR,PHAR,QAR,RAE,SAN,SHIN,TAN,TAR,UN,VIN,WE,XAN,YN,ZEN,ZHAR;
GEORGIAN LETTER HARD=SIGN;GEORGIAN LETTER LABIAL=SIGN;GEORGIAN LETTER TURNED=GAN;
GEORGIAN MTAVRULI CAPITAL LETTER=AEN,AIN,AN,BAN,CAN,CHAR,CHIN,CIL,DON,ELIFI,EN,FI,GAN,GHAN,HAE,HAR,
HE,HIE,HOE,IN,JHAN,JIL,KAN,KHAR,LAS,MAN,NAR,ON,PAR,PHAR,QAR,RAE,SAN,SHIN,TAN,TAR,UN,VIN,WE,XAN,YN,
ZEN,ZHAR;GEORGIAN MTAVRULI CAPITAL LETTER HARD=SIGN;GEORGIAN MTAVRULI CAPITAL LETTER LABIAL=SIGN;
GEORGIAN MTAVRULI CAPITAL LETTER TURNED=GAN;GEORGIAN PARAGRAPH=SEPARATOR;GEORGIAN SMALL LETTER=AEN,
AN,BAN,CAN,CHAR,CHIN,CIL,DON,EN,GAN,GHAN,HAE,HAR,HE,HIE,HOE,IN,JHAN,JIL,KAN,KHAR,LAS,MAN,NAR,ON,
PAR,PHAR,QAR,RAE,SAN,SHIN,TAN,TAR,UN,VIN,WE,XAN,YN,ZEN,ZHAR;GERMAN PENNY=SIGN;GETA=MARK;
GIMEL=SYMBOL;GIRAFFE=FACE;GIRLS=SYMBOL;GLAGOLITIC CAPITAL LETTER=AZU,BUKY,CHRIVI,DJERVI,DOBRO,
DZELO,FITA,FRITU,GLAGOLI,HERU,I,IZHE,IZHITSA,KAKO,LJUDIJE,MYSLITE,NASHI,ONU,OTU,PE,POKOJI,RITSI,
SHA,SHTA,SHTAPIC,SLOVO,TSI,TVRIDO,UKU,VEDE,YATI,YERI,YERU,YESTU,YO,YU,ZEMLJA,ZHIVETE;
GLAGOLITIC CAPITAL LETTER BIG=YUS;GLAGOLITIC CAPITAL LETTER CAUDATE=CHRIVI;
GLAGOLITIC CAPITAL LETTER INITIAL=IZHE;GLAGOLITIC CAPITAL LETTER IOTATED BIG=YUS;
GLAGOLITIC CAPITAL LETTER IOTATED SMALL=YUS;GLAGOLITIC CAPITAL LETTER LATINATE=MYSLITE;
GLAGOLITIC CAPITAL LETTER SMALL=YUS;GLAGOLITIC CAPITAL LETTER SMALL YUS WITH=TAIL;
GLAGOLITIC CAPITAL LETTER SPIDERY=HA;GLAGOLITIC CAPITAL LETTER TROKUTASTI=A;
GLAGOLITIC SMALL LETTER=AZU,BUKY,CHRIVI,DJERVI,DOBRO,DZELO,FITA,FRITU,GLAGOLI,HERU,I,IZHE,IZHITSA,
KAKO,LJUDIJE,MYSLITE,NASHI,ONU,OTU,PE,POKOJI,RITSI,SHA,SHTA,SHTAPIC,SLOVO,TSI,TVRIDO,UKU,VEDE,YATI,
YERI,YERU,YESTU,YO,YU,ZEMLJA,ZHIVETE;GLAGOLITIC SMALL LETTER BIG=YUS;
GLAGOLITIC SMALL LETTER CAUDATE=CHRIVI;GLAGOLITIC SMALL LETTER INITIAL=IZHE;
GLAGOLITIC SMALL LETTER IOTATED BIG=YUS;GLAGOLITIC SMALL LETTER IOTATED SMALL=YUS;
GLAGOLITIC SMALL LETTER LATINATE=MYSLITE;GLAGOLITIC SMALL LETTER SMALL=YUS;
GLAGOLITIC SMALL LETTER SMALL YUS WITH=TAIL;GLAGOLITIC SMALL LETTER SPIDERY=HA;
GLAGOLITIC SMALL LETTER TROKUTASTI=A;GLASS OF=MILK;GLEICH=STARK;GLOBE WITH=MERIDIANS;GLOWING=STAR;
GOAL=NET;GOTHIC LETTER=AHSA,AIHVUS,BAIRKAN,DAGS,EIS,FAIHU,GIBA,HAGL,HWAIR,IGGWS,IUJA,JER,KUSMA,
LAGUS,MANNA,NAUTHS,NINETY,OTHAL,PAIRTHRA,QAIRTHRA,RAIDA,SAUIL,TEIWS,THIUTH,URUS,WINJA;
GOTHIC LETTER NINE=HUNDRED;GRADUATION=CAP;GRANTHA=OM;GRANTHA AU LENGTH=MARK;GRANTHA LETTER=A,AA,AI,
AU,BA,BHA,CA,CHA,DA,DDA,DDHA,DHA,EE,GA,GHA,HA,I,II,JA,JHA,KA,KHA,LA,LLA,MA,NA,NGA,NNA,NYA,OO,PA,
PHA,RA,SA,SHA,SSA,TA,THA,TTA,TTHA,U,UU,VA,YA;GRANTHA LETTER VEDIC=ANUSVARA;
GRANTHA LETTER VEDIC DOUBLE=ANUSVARA;GRANTHA LETTER VOCALIC=L,LL,R,RR;GRANTHA SIGN=ANUSVARA,
AVAGRAHA,CANDRABINDU,NUKTA,PLUTA,VIRAMA,VISARGA;GRANTHA SIGN COMBINING ANUSVARA=ABOVE;
GRANTHA VOWEL SIGN=AA,AI,AU,EE,I,II,OO,U,UU;GRANTHA VOWEL SIGN VOCALIC=L,LL,R,RR;GRAVE=ACCENT;
GREATER-THAN=SIGN;GREATER-THAN ABOVE DOUBLE-LINE EQUAL ABOVE=LESS-THAN;
GREATER-THAN ABOVE LESS-THAN ABOVE DOUBLE-LINE=EQUAL;GREATER-THAN ABOVE RIGHTWARDS=ARROW;
GREATER-THAN ABOVE SIMILAR ABOVE=LESS-THAN;GREATER-THAN ABOVE SIMILAR OR=EQUAL;
GREATER-THAN ABOVE SLANTED EQUAL ABOVE LESS-THAN ABOVE SLANTED=EQUAL;
GREATER-THAN AND NOT=APPROXIMATE;GREATER-THAN AND SINGLE-LINE NOT EQUAL=TO;
GREATER-THAN BESIDE=LESS-THAN;GREATER-THAN BUT NOT EQUAL=TO;GREATER-THAN BUT NOT EQUIVALENT=TO;
GREATER-THAN CLOSED BY=CURVE;GREATER-THAN CLOSED BY CURVE ABOVE SLANTED=EQUAL;
GREATER-THAN EQUAL TO OR=LESS-THAN;GREATER-THAN OR=APPROXIMATE,LESS-THAN;GREATER-THAN OR EQUAL=TO;
GREATER-THAN OR EQUIVALENT=TO;GREATER-THAN OR SLANTED EQUAL=TO;
GREATER-THAN OR SLANTED EQUAL TO WITH DOT=ABOVE,INSIDE;
GREATER-THAN OR SLANTED EQUAL TO WITH DOT ABOVE=LEFT;GREATER-THAN OVER EQUAL=TO;
GREATER-THAN OVERLAPPING=LESS-THAN;GREATER-THAN WITH=DOT;GREATER-THAN WITH CIRCLE=INSIDE;
GREATER-THAN WITH QUESTION MARK=ABOVE;GREEK=DASIA,KORONIS,OXIA,PERISPOMENI,PROSGEGRAMMENI,PSILI,
TONOS,VARIA,YPOGEGRAMMENI;GREEK ACROPHONIC ATTIC=FIFTY,FIVE;GREEK ACROPHONIC ATTIC FIFTY=STATERS,
TALENTS,THOUSAND;GREEK ACROPHONIC ATTIC FIFTY THOUSAND=STATERS;GREEK ACROPHONIC ATTIC FIVE=HUNDRED,
STATERS,TALENTS,THOUSAND;GREEK ACROPHONIC ATTIC FIVE HUNDRED=STATERS,TALENTS;
GREEK ACROPHONIC ATTIC FIVE THOUSAND=TALENTS;GREEK ACROPHONIC ATTIC ONE=DRACHMA,HALF,QUARTER;
GREEK ACROPHONIC ATTIC ONE HUNDRED=STATERS,TALENTS;GREEK ACROPHONIC ATTIC ONE THOUSAND=STATERS,
TALENTS;GREEK ACROPHONIC ATTIC TEN=MNAS,STATERS,TALENTS;
GREEK ACROPHONIC ATTIC TEN THOUSAND=STATERS;GREEK ACROPHONIC CARYSTIAN FIVE=HUNDRED;
GREEK ACROPHONIC CYRENAIC TWO=DRACHMAS;GREEK ACROPHONIC DELPHIC FIVE=MNAS;
GREEK ACROPHONIC EPIDAUREAN=TWO;GREEK ACROPHONIC EPIDAUREAN FIVE=HUNDRED;
GREEK ACROPHONIC EPIDAUREAN TWO=DRACHMAS;GREEK ACROPHONIC HERAEUM ONE=PLETHRON;
GREEK ACROPHONIC HERMIONIAN=FIFTY,ONE,TEN;GREEK ACROPHONIC MESSENIAN=TEN;
GREEK ACROPHONIC NAXIAN FIVE=HUNDRED;GREEK ACROPHONIC STRATIAN FIFTY=MNAS;
GREEK ACROPHONIC THESPIAN=FIFTY,ONE,TEN,THIRTY,TWO;GREEK ACROPHONIC THESPIAN FIVE=HUNDRED,THOUSAND;
GREEK ACROPHONIC THESPIAN ONE=HUNDRED,THOUSAND;GREEK ACROPHONIC THESPIAN THREE=HUNDRED;
GREEK ACROPHONIC TROEZENIAN=FIFTY,FIVE,TEN;GREEK ACROPHONIC TROEZENIAN FIFTY ALTERNATE=FORM;
GREEK ACROPHONIC TROEZENIAN FIVE=HUNDRED;GREEK ACROPHONIC TROEZENIAN TEN ALTERNATE=FORM;
GREEK ANO=TELEIA;GREEK AROURA=SIGN;GREEK ARTABE=SIGN;GREEK BETA=SYMBOL;
GREEK CAPITAL DOTTED LUNATE SIGMA=SYMBOL;GREEK CAPITAL KAI=SYMBOL;GREEK CAPITAL LETTER=ALPHA,BETA,
CHI,DELTA,EPSILON,ETA,GAMMA,HETA,IOTA,KAPPA,LAMDA,MU,NU,OMEGA,OMICRON,PHI,PI,PSI,RHO,SAN,SHO,SIGMA,
TAU,THETA,UPSILON,XI,YOT,ZETA;GREEK CAPITAL LETTER ALPHA WITH=DASIA,MACRON,OXIA,PROSGEGRAMMENI,
PSILI,TONOS,VARIA,VRACHY;GREEK CAPITAL LETTER ALPHA WITH DASIA AND=OXIA,PERISPOMENI,PROSGEGRAMMENI,
VARIA;GREEK CAPITAL LETTER ALPHA WITH DASIA AND OXIA AND=PROSGEGRAMMENI;
GREEK CAPITAL LETTER ALPHA WITH DASIA AND PERISPOMENI AND=PROSGEGRAMMENI;
GREEK CAPITAL LETTER ALPHA WITH DASIA AND VARIA AND=PROSGEGRAMMENI;
GREEK CAPITAL LETTER ALPHA WITH PSILI AND=OXIA,PERISPOMENI,PROSGEGRAMMENI,VARIA;
GREEK CAPITAL LETTER ALPHA WITH PSILI AND OXIA AND=PROSGEGRAMMENI;
GREEK CAPITAL LETTER ALPHA WITH PSILI AND PERISPOMENI AND=PROSGEGRAMMENI;
GREEK CAPITAL LETTER ALPHA WITH PSILI AND VARIA AND=PROSGEGRAMMENI;
GREEK CAPITAL LETTER ARCHAIC=SAMPI;GREEK CAPITAL LETTER EPSILON WITH=DASIA,OXIA,PSILI,TONOS,VARIA;
GREEK CAPITAL LETTER EPSILON WITH DASIA AND=OXIA,VARIA;
GREEK CAPITAL LETTER EPSILON WITH PSILI AND=OXIA,VARIA;GREEK CAPITAL LETTER ETA WITH=DASIA,OXIA,
PROSGEGRAMMENI,PSILI,TONOS,VARIA;GREEK CAPITAL LETTER ETA WITH DASIA AND=OXIA,PERISPOMENI,
PROSGEGRAMMENI,VARIA;GREEK CAPITAL LETTER ETA WITH DASIA AND OXIA AND=PROSGEGRAMMENI;
GREEK CAPITAL LETTER ETA WITH DASIA AND PERISPOMENI AND=PROSGEGRAMMENI;
GREEK CAPITAL LETTER ETA WITH DASIA AND VARIA AND=PROSGEGRAMMENI;
GREEK CAPITAL LETTER ETA WITH PSILI AND=OXIA,PERISPOMENI,PROSGEGRAMMENI,VARIA;
GREEK CAPITAL LETTER ETA WITH PSILI AND OXIA AND=PROSGEGRAMMENI;
GREEK CAPITAL LETTER ETA WITH PSILI AND PERISPOMENI AND=PROSGEGRAMMENI;
GREEK CAPITAL LETTER ETA WITH PSILI AND VARIA AND=PROSGEGRAMMENI;
GREEK CAPITAL LETTER IOTA WITH=DASIA,DIALYTIKA,MACRON,OXIA,PSILI,TONOS,VARIA,VRACHY;
GREEK CAPITAL LETTER IOTA WITH DASIA AND=OXIA,PERISPOMENI,VARIA;
GREEK CAPITAL LETTER IOTA WITH PSILI AND=OXIA,PERISPOMENI,VARIA;
GREEK CAPITAL LETTER OMEGA WITH=DASIA,OXIA,PROSGEGRAMMENI,PSILI,TONOS,VARIA;
GREEK CAPITAL LETTER OMEGA WITH DASIA AND=OXIA,PERISPOMENI,PROSGEGRAMMENI,VARIA;
GREEK CAPITAL LETTER OMEGA WITH DASIA AND OXIA AND=PROSGEGRAMMENI;
GREEK CAPITAL LETTER OMEGA WITH DASIA AND PERISPOMENI AND=PROSGEGRAMMENI;
GREEK CAPITAL LETTER OMEGA WITH DASIA AND VARIA AND=PROSGEGRAMMENI;
GREEK CAPITAL LETTER OMEGA WITH PSILI AND=OXIA,PERISPOMENI,PROSGEGRAMMENI,VARIA;
GREEK CAPITAL LETTER OMEGA WITH PSILI AND OXIA AND=PROSGEGRAMMENI;
GREEK CAPITAL LETTER OMEGA WITH PSILI AND PERISPOMENI AND=PROSGEGRAMMENI;
GREEK CAPITAL LETTER OMEGA WITH PSILI AND VARIA AND=PROSGEGRAMMENI;
GREEK CAPITAL LETTER OMICRON WITH=DASIA,OXIA,PSILI,TONOS,VARIA;
GREEK CAPITAL LETTER OMICRON WITH DASIA AND=OXIA,VARIA;
GREEK CAPITAL LETTER OMICRON WITH PSILI AND=OXIA,VARIA;GREEK CAPITAL LETTER PAMPHYLIAN=DIGAMMA;
GREEK CAPITAL LETTER RHO WITH=DASIA;GREEK CAPITAL LETTER UPSILON WITH=DASIA,DIALYTIKA,MACRON,OXIA,
TONOS,VARIA,VRACHY;GREEK CAPITAL LETTER UPSILON WITH DASIA AND=OXIA,PERISPOMENI,VARIA;
GREEK CAPITAL LUNATE SIGMA=SYMBOL;GREEK CAPITAL REVERSED DOTTED LUNATE SIGMA=SYMBOL;
GREEK CAPITAL REVERSED LUNATE SIGMA=SYMBOL;GREEK CAPITAL THETA=SYMBOL;GREEK DASIA AND=OXIA,
PERISPOMENI,VARIA;GREEK DIALYTIKA=TONOS;GREEK DIALYTIKA AND=OXIA,PERISPOMENI,VARIA;
GREEK DRACHMA=SIGN;GREEK FIVE OBOLS=SIGN;GREEK FOUR OBOLS=SIGN;GREEK GRAMMA=SIGN;
GREEK INDICTION=SIGN;GREEK INSTRUMENTAL NOTATION=SYMBOL-1,SYMBOL-11,SYMBOL-12,SYMBOL-13,SYMBOL-14,
SYMBOL-17,SYMBOL-18,SYMBOL-19,SYMBOL-2,SYMBOL-23,SYMBOL-24,SYMBOL-25,SYMBOL-26,SYMBOL-27,SYMBOL-29,
SYMBOL-30,SYMBOL-32,SYMBOL-36,SYMBOL-37,SYMBOL-38,SYMBOL-39,SYMBOL-4,SYMBOL-40,SYMBOL-42,SYMBOL-43,
SYMBOL-45,SYMBOL-47,SYMBOL-48,SYMBOL-49,SYMBOL-5,SYMBOL-50,SYMBOL-51,SYMBOL-52,SYMBOL-53,SYMBOL-54,
SYMBOL-7,SYMBOL-8;GREEK KAI=SYMBOL;GREEK KAPPA=SYMBOL;GREEK KYATHOS BASE=SIGN;GREEK LETTER=DIGAMMA,
KOPPA,SAMPI,STIGMA,YOT;GREEK LETTER ARCHAIC=KOPPA;GREEK LETTER SMALL CAPITAL=GAMMA,LAMDA,OMEGA,PI,
PSI,RHO;GREEK LITRA=SIGN;GREEK LOWER NUMERAL=SIGN;GREEK LUNATE EPSILON=SYMBOL;
GREEK LUNATE SIGMA=SYMBOL;GREEK METRETES=SIGN;GREEK MUSICAL=LEIMMA;GREEK NUMERAL=SIGN;
GREEK OBOL=SIGN;GREEK ONE HALF=SIGN;GREEK ONE HALF SIGN ALTERNATE=FORM;GREEK ONE QUARTER=SIGN;
GREEK OUNKIA=SIGN;GREEK PHI=SYMBOL;GREEK PI=SYMBOL;GREEK PSILI AND=OXIA,PERISPOMENI,VARIA;
GREEK QUESTION=MARK;GREEK REVERSED LUNATE EPSILON=SYMBOL;GREEK RHO=SYMBOL;
GREEK RHO WITH STROKE=SYMBOL;GREEK SINUSOID=SIGN;GREEK SMALL DOTTED LUNATE SIGMA=SYMBOL;
GREEK SMALL LETTER=ALPHA,BETA,CHI,DELTA,DIGAMMA,EPSILON,ETA,GAMMA,HETA,IOTA,KAPPA,KOPPA,LAMDA,MU,
NU,OMEGA,OMICRON,PHI,PI,PSI,RHO,SAMPI,SAN,SHO,SIGMA,STIGMA,TAU,THETA,UPSILON,XI,ZETA;
GREEK SMALL LETTER ALPHA WITH=DASIA,MACRON,OXIA,PERISPOMENI,PSILI,TONOS,VARIA,VRACHY,YPOGEGRAMMENI;
GREEK SMALL LETTER ALPHA WITH DASIA AND=OXIA,PERISPOMENI,VARIA,YPOGEGRAMMENI;
GREEK SMALL LETTER ALPHA WITH DASIA AND OXIA AND=YPOGEGRAMMENI;
GREEK SMALL LETTER ALPHA WITH DASIA AND PERISPOMENI AND=YPOGEGRAMMENI;
GREEK SMALL LETTER ALPHA WITH DASIA AND VARIA AND=YPOGEGRAMMENI;
GREEK SMALL LETTER ALPHA WITH OXIA AND=YPOGEGRAMMENI;
GREEK SMALL LETTER ALPHA WITH PERISPOMENI AND=YPOGEGRAMMENI;
GREEK SMALL LETTER ALPHA WITH PSILI AND=OXIA,PERISPOMENI,VARIA,YPOGEGRAMMENI;
GREEK SMALL LETTER ALPHA WITH PSILI AND OXIA AND=YPOGEGRAMMENI;
GREEK SMALL LETTER ALPHA WITH PSILI AND PERISPOMENI AND=YPOGEGRAMMENI;
GREEK SMALL LETTER ALPHA WITH PSILI AND VARIA AND=YPOGEGRAMMENI;
GREEK SMALL LETTER ALPHA WITH VARIA AND=YPOGEGRAMMENI;GREEK SMALL LETTER ARCHAIC=KOPPA,SAMPI;
GREEK SMALL LETTER EPSILON WITH=DASIA,OXIA,PSILI,TONOS,VARIA;
GREEK SMALL LETTER EPSILON WITH DASIA AND=OXIA,VARIA;
GREEK SMALL LETTER EPSILON WITH PSILI AND=OXIA,VARIA;GREEK SMALL LETTER ETA WITH=DASIA,OXIA,
PERISPOMENI,PSILI,TONOS,VARIA,YPOGEGRAMMENI;GREEK SMALL LETTER ETA WITH DASIA AND=OXIA,PERISPOMENI,
VARIA,YPOGEGRAMMENI;GREEK SMALL LETTER ETA WITH DASIA AND OXIA AND=YPOGEGRAMMENI;
GREEK SMALL LETTER ETA WITH DASIA AND PERISPOMENI AND=YPOGEGRAMMENI;
GREEK SMALL LETTER ETA WITH DASIA AND VARIA AND=YPOGEGRAMMENI;
GREEK SMALL LETTER ETA WITH OXIA AND=YPOGEGRAMMENI;
GREEK SMALL LETTER ETA WITH PERISPOMENI AND=YPOGEGRAMMENI;
GREEK SMALL LETTER ETA WITH PSILI AND=OXIA,PERISPOMENI,VARIA,YPOGEGRAMMENI;
GREEK SMALL LETTER ETA WITH PSILI AND OXIA AND=YPOGEGRAMMENI;
GREEK SMALL LETTER ETA WITH PSILI AND PERISPOMENI AND=YPOGEGRAMMENI;
GREEK SMALL LETTER ETA WITH PSILI AND VARIA AND=YPOGEGRAMMENI;
GREEK SMALL LETTER ETA WITH VARIA AND=YPOGEGRAMMENI;GREEK SMALL LETTER FINAL=SIGMA;
GREEK SMALL LETTER IOTA WITH=DASIA,DIALYTIKA,MACRON,OXIA,PERISPOMENI,PSILI,TONOS,VARIA,VRACHY;
GREEK SMALL LETTER IOTA WITH DASIA AND=OXIA,PERISPOMENI,VARIA;
GREEK SMALL LETTER IOTA WITH DIALYTIKA AND=OXIA,PERISPOMENI,TONOS,VARIA;
GREEK SMALL LETTER IOTA WITH PSILI AND=OXIA,PERISPOMENI,VARIA;GREEK SMALL LETTER OMEGA WITH=DASIA,
OXIA,PERISPOMENI,PSILI,TONOS,VARIA,YPOGEGRAMMENI;GREEK SMALL LETTER OMEGA WITH DASIA AND=OXIA,
PERISPOMENI,VARIA,YPOGEGRAMMENI;GREEK SMALL LETTER OMEGA WITH DASIA AND OXIA AND=YPOGEGRAMMENI;
GREEK SMALL LETTER OMEGA WITH DASIA AND PERISPOMENI AND=YPOGEGRAMMENI;
GREEK SMALL LETTER OMEGA WITH DASIA AND VARIA AND=YPOGEGRAMMENI;
GREEK SMALL LETTER OMEGA WITH OXIA AND=YPOGEGRAMMENI;
GREEK SMALL LETTER OMEGA WITH PERISPOMENI AND=YPOGEGRAMMENI;
GREEK SMALL LETTER OMEGA WITH PSILI AND=OXIA,PERISPOMENI,VARIA,YPOGEGRAMMENI;
GREEK SMALL LETTER OMEGA WITH PSILI AND OXIA AND=YPOGEGRAMMENI;
GREEK SMALL LETTER OMEGA WITH PSILI AND PERISPOMENI AND=YPOGEGRAMMENI;
GREEK SMALL LETTER OMEGA WITH PSILI AND VARIA AND=YPOGEGRAMMENI;
GREEK SMALL LETTER OMEGA WITH VARIA AND=YPOGEGRAMMENI;GREEK SMALL LETTER OMICRON WITH=DASIA,OXIA,
PSILI,TONOS,VARIA;GREEK SMALL LETTER OMICRON WITH DASIA AND=OXIA,VARIA;
GREEK SMALL LETTER OMICRON WITH PSILI AND=OXIA,VARIA;GREEK SMALL LETTER PAMPHYLIAN=DIGAMMA;
GREEK SMALL LETTER RHO WITH=DASIA,PSILI;GREEK SMALL LETTER UPSILON WITH=DASIA,DIALYTIKA,MACRON,
OXIA,PERISPOMENI,PSILI,TONOS,VARIA,VRACHY;GREEK SMALL LETTER UPSILON WITH DASIA AND=OXIA,
PERISPOMENI,VARIA;GREEK SMALL LETTER UPSILON WITH DIALYTIKA AND=OXIA,PERISPOMENI,TONOS,VARIA;
GREEK SMALL LETTER UPSILON WITH PSILI AND=OXIA,PERISPOMENI,VARIA;
GREEK SMALL REVERSED DOTTED LUNATE SIGMA=SYMBOL;GREEK SMALL REVERSED LUNATE SIGMA=SYMBOL;
GREEK SUBSCRIPT SMALL LETTER=BETA,CHI,GAMMA,PHI,RHO;GREEK SYMBOL TAU=RHO;GREEK TALENT=SIGN;
GREEK THETA=SYMBOL;GREEK THREE OBOLS=SIGN;GREEK THREE QUARTERS=SIGN;GREEK TRYBLION BASE=SIGN;
GREEK TWO OBOLS=SIGN;GREEK TWO THIRDS=SIGN;GREEK UPSILON WITH ACUTE AND HOOK=SYMBOL;
GREEK UPSILON WITH DIAERESIS AND HOOK=SYMBOL;GREEK UPSILON WITH HOOK=SYMBOL;
GREEK VOCAL NOTATION=SYMBOL-1,SYMBOL-10,SYMBOL-11,SYMBOL-12,SYMBOL-13,SYMBOL-14,SYMBOL-15,
SYMBOL-16,SYMBOL-17,SYMBOL-18,SYMBOL-19,SYMBOL-2,SYMBOL-20,SYMBOL-21,SYMBOL-22,SYMBOL-23,SYMBOL-24,
SYMBOL-3,SYMBOL-4,SYMBOL-5,SYMBOL-50,SYMBOL-51,SYMBOL-52,SYMBOL-53,SYMBOL-54,SYMBOL-6,SYMBOL-7,
SYMBOL-8,SYMBOL-9;GREEK XESTES=SIGN;GREEK YEAR=SIGN;GREEK ZERO=SIGN;GREEN=APPLE,BOOK,HEART,SALAD;
GRIMACING=FACE;GRINNING=FACE;GRINNING CAT FACE WITH SMILING=EYES;
GRINNING FACE WITH ONE LARGE AND ONE SMALL=EYE;GRINNING FACE WITH SMILING=EYES;
GRINNING FACE WITH STAR=EYES;GROUP=MARK,SEPARATOR;GROWING=HEART;GUARANI=SIGN;GUIDE=DOG;GUJARATI=OM;
GUJARATI ABBREVIATION=SIGN;GUJARATI DIGIT=EIGHT,FIVE,FOUR,NINE,ONE,SEVEN,SIX,THREE,TWO,ZERO;
GUJARATI LETTER=A,AA,AI,AU,BA,BHA,CA,CHA,DA,DDA,DDHA,DHA,E,GA,GHA,HA,I,II,JA,JHA,KA,KHA,LA,LLA,MA,
NA,NGA,NNA,NYA,O,PA,PHA,RA,SA,SHA,SSA,TA,THA,TTA,TTHA,U,UU,VA,YA,ZHA;GUJARATI LETTER VOCALIC=L,LL,
R,RR;GUJARATI RUPEE=SIGN;GUJARATI SIGN=ANUSVARA,AVAGRAHA,CANDRABINDU,MADDAH,NUKTA,SHADDA,SUKUN,
VIRAMA,VISARGA;GUJARATI SIGN CIRCLE NUKTA=ABOVE;GUJARATI SIGN THREE-DOT NUKTA=ABOVE;
GUJARATI SIGN TWO-CIRCLE NUKTA=ABOVE;GUJARATI VOWEL CANDRA=E,O;GUJARATI VOWEL SIGN=AA,AI,AU,E,I,II,
O,U,UU;GUJARATI VOWEL SIGN CANDRA=E,O;GUJARATI VOWEL SIGN VOCALIC=L,LL,R,RR;GUNJALA GONDI=OM,
VIRAMA;GUNJALA GONDI DIGIT=EIGHT,FIVE,FOUR,NINE,ONE,SEVEN,SIX,THREE,TWO,ZERO;
GUNJALA GONDI LETTER=A,AA,AI,AU,BA,BHA,CA,CHA,DA,DDA,DDHA,DHA,EE,GA,GHA,HA,I,II,JA,JHA,KA,KHA,LA,
LLA,MA,NA,NGA,OO,PA,PHA,RA,SA,TA,THA,TTA,TTHA,U,UU,VA,YA;GUNJALA GONDI SIGN=ANUSVARA,VISARGA;
GUNJALA GONDI VOWEL SIGN=AA,AI,AU,EE,I,II,OO,U,UU;GURMUKHI=ADDAK,IRI,TIPPI,URA;
GURMUKHI ABBREVIATION=SIGN;GURMUKHI DIGIT=EIGHT,FIVE,FOUR,NINE,ONE,SEVEN,SIX,THREE,TWO,ZERO;
GURMUKHI EK=ONKAR;GURMUKHI LETTER=A,AA,AI,AU,BA,BHA,CA,CHA,DA,DDA,DDHA,DHA,EE,FA,GA,GHA,GHHA,HA,I,
II,JA,JHA,KA,KHA,KHHA,LA,LLA,MA,NA,NGA,NNA,NYA,OO,PA,PHA,RA,RRA,SA,SHA,TA,THA,TTA,TTHA,U,UU,VA,YA,
ZA;GURMUKHI SIGN=BINDI,NUKTA,UDAAT,VIRAMA,VISARGA,YAKASH;GURMUKHI SIGN ADAK=BINDI;
GURMUKHI VOWEL SIGN=AA,AI,AU,EE,I,II,OO,U,UU;HAIR=SPACE;HALFWIDTH BLACK=SQUARE;
HALFWIDTH DOWNWARDS=ARROW;HALFWIDTH FORMS LIGHT=VERTICAL;HALFWIDTH HANGUL=FILLER;
HALFWIDTH HANGUL LETTER=A,AE,CHIEUCH,CIEUC,E,EO,EU,HIEUH,I,IEUNG,KHIEUKH,KIYEOK,KIYEOK-SIOS,MIEUM,
NIEUN,NIEUN-CIEUC,NIEUN-HIEUH,O,OE,PHIEUPH,PIEUP,PIEUP-SIOS,RIEUL,RIEUL-HIEUH,RIEUL-KIYEOK,
RIEUL-MIEUM,RIEUL-PHIEUPH,RIEUL-PIEUP,RIEUL-SIOS,RIEUL-THIEUTH,SIOS,SSANGCIEUC,SSANGKIYEOK,
SSANGPIEUP,SSANGSIOS,SSANGTIKEUT,THIEUTH,TIKEUT,U,WA,WAE,WE,WEO,WI,YA,YAE,YE,YEO,YI,YO,YU;
HALFWIDTH IDEOGRAPHIC=COMMA;HALFWIDTH IDEOGRAPHIC FULL=STOP;HALFWIDTH KATAKANA LETTER=A,E,HA,HE,HI,
HO,HU,I,KA,KE,KI,KO,KU,MA,ME,MI,MO,MU,N,NA,NE,NI,NO,NU,O,RA,RE,RI,RO,RU,SA,SE,SI,SO,SU,TA,TE,TI,TO,
TU,U,WA,WO,YA,YO,YU;HALFWIDTH KATAKANA LETTER SMALL=A,E,I,O,TU,U,YA,YO,YU;
HALFWIDTH KATAKANA MIDDLE=DOT;HALFWIDTH KATAKANA SEMI-VOICED SOUND=MARK;
HALFWIDTH KATAKANA VOICED SOUND=MARK;HALFWIDTH KATAKANA-HIRAGANA PROLONGED SOUND=MARK;
HALFWIDTH LEFT CORNER=BRACKET;HALFWIDTH LEFTWARDS=ARROW;HALFWIDTH RIGHT CORNER=BRACKET;
HALFWIDTH RIGHTWARDS=ARROW;HALFWIDTH UPWARDS=ARROW;HALFWIDTH WHITE=CIRCLE;HAMMER AND=PICK,SICKLE,
WRENCH;HAMSTER=FACE;HAND WITH INDEX AND MIDDLE FINGERS=CROSSED;
HAND WITH INDEX FINGER AND THUMB=CROSSED;HANGUL=FILLER;HANGUL CHOSEONG=CEONGCHIEUMCHIEUCH,
CEONGCHIEUMCIEUC,CEONGCHIEUMSIOS,CEONGCHIEUMSSANGCIEUC,CEONGCHIEUMSSANGSIOS,CHIEUCH,CHIEUCH-HIEUH,
CHIEUCH-KHIEUKH,CHITUEUMCHIEUCH,CHITUEUMCIEUC,CHITUEUMSIOS,CHITUEUMSSANGCIEUC,CHITUEUMSSANGSIOS,
CIEUC,CIEUC-IEUNG,FILLER,HIEUH,HIEUH-SIOS,IEUNG,IEUNG-CHIEUCH,IEUNG-CIEUC,IEUNG-HIEUH,IEUNG-KIYEOK,
IEUNG-MIEUM,IEUNG-PANSIOS,IEUNG-PHIEUPH,IEUNG-PIEUP,IEUNG-RIEUL,IEUNG-SIOS,IEUNG-THIEUTH,
IEUNG-TIKEUT,KAPYEOUNMIEUM,KAPYEOUNPHIEUPH,KAPYEOUNPIEUP,KAPYEOUNRIEUL,KAPYEOUNSSANGPIEUP,KHIEUKH,
KIYEOK,KIYEOK-TIKEUT,MIEUM,MIEUM-KIYEOK,MIEUM-PIEUP,MIEUM-SIOS,MIEUM-TIKEUT,NIEUN,NIEUN-CIEUC,
NIEUN-HIEUH,NIEUN-KIYEOK,NIEUN-PIEUP,NIEUN-SIOS,NIEUN-TIKEUT,PANSIOS,PHIEUPH,PHIEUPH-HIEUH,
PHIEUPH-PIEUP,PIEUP,PIEUP-CHIEUCH,PIEUP-CIEUC,PIEUP-HIEUH,PIEUP-KHIEUKH,PIEUP-KIYEOK,PIEUP-NIEUN,
PIEUP-PHIEUPH,PIEUP-SIOS,PIEUP-SIOS-CIEUC,PIEUP-SIOS-KIYEOK,PIEUP-SIOS-PIEUP,PIEUP-SIOS-THIEUTH,
PIEUP-SIOS-TIKEUT,PIEUP-SSANGSIOS,PIEUP-THIEUTH,PIEUP-TIKEUT,RIEUL,RIEUL-CIEUC,RIEUL-HIEUH,
RIEUL-KAPYEOUNPIEUP,RIEUL-KHIEUKH,RIEUL-KIYEOK,RIEUL-MIEUM,RIEUL-NIEUN,RIEUL-PIEUP,RIEUL-SIOS,
RIEUL-SSANGKIYEOK,RIEUL-SSANGPIEUP,RIEUL-SSANGTIKEUT,RIEUL-TIKEUT,SIOS,SIOS-CHIEUCH,SIOS-CIEUC,
SIOS-HIEUH,SIOS-IEUNG,SIOS-KHIEUKH,SIOS-KIYEOK,SIOS-MIEUM,SIOS-NIEUN,SIOS-PHIEUPH,SIOS-PIEUP,
SIOS-PIEUP-KIYEOK,SIOS-RIEUL,SIOS-SSANGSIOS,SIOS-THIEUTH,SIOS-TIKEUT,SSANGCIEUC,SSANGCIEUC-HIEUH,
SSANGHIEUH,SSANGIEUNG,SSANGKIYEOK,SSANGNIEUN,SSANGPIEUP,SSANGRIEUL,SSANGSIOS,SSANGSIOS-PIEUP,
SSANGTHIEUTH,SSANGTIKEUT,SSANGYEORINHIEUH,THIEUTH,TIKEUT,TIKEUT-CIEUC,TIKEUT-KIYEOK,TIKEUT-MIEUM,
TIKEUT-PIEUP,TIKEUT-RIEUL,TIKEUT-SIOS,YEORINHIEUH,YESIEUNG;HANGUL DOUBLE DOT TONE=MARK;
HANGUL JONGSEONG=CHIEUCH,CIEUC,CIEUC-PIEUP,CIEUC-SSANGPIEUP,HIEUH,HIEUH-MIEUM,HIEUH-NIEUN,
HIEUH-PIEUP,HIEUH-RIEUL,IEUNG,IEUNG-KHIEUKH,IEUNG-KIYEOK,IEUNG-SSANGKIYEOK,KAPYEOUNMIEUM,
KAPYEOUNPHIEUPH,KAPYEOUNPIEUP,KAPYEOUNRIEUL,KHIEUKH,KIYEOK,KIYEOK-CHIEUCH,KIYEOK-HIEUH,
KIYEOK-KHIEUKH,KIYEOK-NIEUN,KIYEOK-PIEUP,KIYEOK-RIEUL,KIYEOK-SIOS,KIYEOK-SIOS-KIYEOK,MIEUM,
MIEUM-CHIEUCH,MIEUM-CIEUC,MIEUM-HIEUH,MIEUM-KIYEOK,MIEUM-NIEUN,MIEUM-PANSIOS,MIEUM-PIEUP,
MIEUM-PIEUP-SIOS,MIEUM-RIEUL,MIEUM-SIOS,MIEUM-SSANGNIEUN,MIEUM-SSANGSIOS,NIEUN,NIEUN-CHIEUCH,
NIEUN-CIEUC,NIEUN-HIEUH,NIEUN-KIYEOK,NIEUN-PANSIOS,NIEUN-RIEUL,NIEUN-SIOS,NIEUN-THIEUTH,
NIEUN-TIKEUT,PANSIOS,PANSIOS-KAPYEOUNPIEUP,PANSIOS-PIEUP,PHIEUPH,PHIEUPH-PIEUP,PHIEUPH-SIOS,
PHIEUPH-THIEUTH,PIEUP,PIEUP-CHIEUCH,PIEUP-CIEUC,PIEUP-HIEUH,PIEUP-MIEUM,PIEUP-PHIEUPH,PIEUP-RIEUL,
PIEUP-RIEUL-PHIEUPH,PIEUP-SIOS,PIEUP-SIOS-TIKEUT,PIEUP-TIKEUT,RIEUL,RIEUL-HIEUH,
RIEUL-KAPYEOUNPIEUP,RIEUL-KHIEUKH,RIEUL-KIYEOK,RIEUL-KIYEOK-HIEUH,RIEUL-KIYEOK-SIOS,RIEUL-MIEUM,
RIEUL-MIEUM-HIEUH,RIEUL-MIEUM-KIYEOK,RIEUL-MIEUM-SIOS,RIEUL-NIEUN,RIEUL-PANSIOS,RIEUL-PHIEUPH,
RIEUL-PIEUP,RIEUL-PIEUP-HIEUH,RIEUL-PIEUP-PHIEUPH,RIEUL-PIEUP-SIOS,RIEUL-PIEUP-TIKEUT,RIEUL-SIOS,
RIEUL-SSANGKIYEOK,RIEUL-SSANGSIOS,RIEUL-THIEUTH,RIEUL-TIKEUT,RIEUL-TIKEUT-HIEUH,RIEUL-YEORINHIEUH,
RIEUL-YEORINHIEUH-HIEUH,RIEUL-YESIEUNG,SIOS,SIOS-CHIEUCH,SIOS-CIEUC,SIOS-HIEUH,SIOS-KAPYEOUNPIEUP,
SIOS-KIYEOK,SIOS-MIEUM,SIOS-PANSIOS,SIOS-PIEUP,SIOS-RIEUL,SIOS-THIEUTH,SIOS-TIKEUT,SSANGCIEUC,
SSANGIEUNG,SSANGKIYEOK,SSANGMIEUM,SSANGNIEUN,SSANGPIEUP,SSANGRIEUL,SSANGRIEUL-KHIEUKH,SSANGSIOS,
SSANGSIOS-KIYEOK,SSANGSIOS-TIKEUT,SSANGTIKEUT,SSANGTIKEUT-PIEUP,SSANGYESIEUNG,THIEUTH,TIKEUT,
TIKEUT-CHIEUCH,TIKEUT-CIEUC,TIKEUT-KIYEOK,TIKEUT-PIEUP,TIKEUT-RIEUL,TIKEUT-SIOS,TIKEUT-SIOS-KIYEOK,
TIKEUT-THIEUTH,YEORINHIEUH,YESIEUNG,YESIEUNG-HIEUH,YESIEUNG-KHIEUKH,YESIEUNG-KIYEOK,YESIEUNG-MIEUM,
YESIEUNG-PANSIOS,YESIEUNG-SIOS,YESIEUNG-SSANGKIYEOK;HANGUL JUNGSEONG=A,A-EU,A-O,A-U,AE,ARAEA,
ARAEA-A,ARAEA-E,ARAEA-EO,ARAEA-I,ARAEA-U,E,EO,EO-EU,EO-O,EO-U,EU,EU-A,EU-E,EU-EO,EU-EU,EU-O,EU-U,
FILLER,I,I-A,I-ARAEA,I-EU,I-I,I-O,I-O-I,I-U,I-YA,I-YA-O,I-YAE,I-YE,I-YEO,I-YO,I-YU,O,O-E,O-EO,O-O,
O-O-I,O-U,O-YA,O-YAE,O-YE,O-YEO,OE,SSANGARAEA,U,U-A,U-AE,U-EO-EU,U-I-I,U-U,U-YE,U-YEO,WA,WAE,WE,
WEO,WI,YA,YA-O,YA-U,YA-YO,YAE,YE,YEO,YEO-O,YEO-U,YEO-YA,YI,YI-U,YO,YO-A,YO-AE,YO-EO,YO-I,YO-O,
YO-YA,YO-YAE,YO-YEO,YU,YU-A,YU-AE,YU-E,YU-EO,YU-I,YU-O,YU-U,YU-YE,YU-YEO;HANGUL LETTER=A,AE,ARAEA,
ARAEAE,CHIEUCH,CIEUC,E,EO,EU,HIEUH,I,IEUNG,KAPYEOUNMIEUM,KAPYEOUNPHIEUPH,KAPYEOUNPIEUP,
KAPYEOUNSSANGPIEUP,KHIEUKH,KIYEOK,KIYEOK-SIOS,MIEUM,MIEUM-PANSIOS,MIEUM-PIEUP,MIEUM-SIOS,NIEUN,
NIEUN-CIEUC,NIEUN-HIEUH,NIEUN-PANSIOS,NIEUN-SIOS,NIEUN-TIKEUT,O,OE,PANSIOS,PHIEUPH,PIEUP,
PIEUP-CIEUC,PIEUP-KIYEOK,PIEUP-SIOS,PIEUP-SIOS-KIYEOK,PIEUP-SIOS-TIKEUT,PIEUP-THIEUTH,PIEUP-TIKEUT,
RIEUL,RIEUL-HIEUH,RIEUL-KIYEOK,RIEUL-KIYEOK-SIOS,RIEUL-MIEUM,RIEUL-PANSIOS,RIEUL-PHIEUPH,
RIEUL-PIEUP,RIEUL-PIEUP-SIOS,RIEUL-SIOS,RIEUL-THIEUTH,RIEUL-TIKEUT,RIEUL-YEORINHIEUH,SIOS,
SIOS-CIEUC,SIOS-KIYEOK,SIOS-NIEUN,SIOS-PIEUP,SIOS-TIKEUT,SSANGCIEUC,SSANGHIEUH,SSANGIEUNG,
SSANGKIYEOK,SSANGNIEUN,SSANGPIEUP,SSANGSIOS,SSANGTIKEUT,THIEUTH,TIKEUT,U,WA,WAE,WE,WEO,WI,YA,YAE,
YE,YEO,YEORINHIEUH,YESIEUNG,YESIEUNG-PANSIOS,YESIEUNG-SIOS,YI,YO,YO-I,YO-YA,YO-YAE,YU,YU-I,YU-YE,
YU-YEO;HANGUL SINGLE DOT TONE=MARK;HANGZHOU NUMERAL=EIGHT,FIVE,FOUR,NINE,ONE,SEVEN,SIX,TEN,THIRTY,
THREE,TWENTY,TWO;HANIFI ROHINGYA DIGIT=EIGHT,FIVE,FOUR,NINE,ONE,SEVEN,SIX,THREE,TWO,ZERO;
HANIFI ROHINGYA LETTER=A,BA,CA,DA,DDA,FA,GA,HA,JA,KA,KHA,LA,MA,NA,NGA,NYA,PA,RA,RRA,SA,SHA,TA,TTA,
VA,WA,YA,ZA;HANIFI ROHINGYA LETTER KINNA=WA,YA;HANIFI ROHINGYA MARK=SAKIN;
HANIFI ROHINGYA MARK NA=KHONNA;HANIFI ROHINGYA SIGN=HARBAHAY,TAHALA,TANA,TASSI;
HANIFI ROHINGYA VOWEL=A,E,I,O,U;HANUNOO LETTER=A,BA,DA,GA,HA,I,KA,LA,MA,NA,NGA,PA,RA,SA,TA,U,WA,YA;
HANUNOO SIGN=PAMUDPOD;HANUNOO VOWEL SIGN=I,U;HAPPY PERSON RAISING ONE=HAND;HARD=DISK;
HATCHING=CHICK;HATRAN LETTER=ALEPH,AYN,BETH,DALETH-RESH,GIMEL,HE,HETH,KAPH,LAMEDH,MEM,NUN,PE,QOPH,
SADHE,SAMEKH,SHIN,TAW,TETH,WAW,YODH,ZAYN;HATRAN NUMBER=FIVE,ONE,TEN,TWENTY;
HATRAN NUMBER ONE=HUNDRED;HEADSTONE GRAVEYARD=SYMBOL;HEAR-NO-EVIL=MONKEY;HEART=DECORATION,HANDS;
HEART WITH=ARROW,RIBBON;HEART WITH TIP ON THE=LEFT;HEAVY=ASTERISK,CIRCLE,SALTIRE,SPARKLE;
HEAVY AMPERSAND=ORNAMENT;HEAVY ARROW SHAFT WIDTH=ONE;HEAVY ARROW SHAFT WIDTH ONE=HALF,THIRD;
HEAVY ARROW SHAFT WIDTH TWO=THIRDS;HEAVY BALLOT=X;HEAVY BLACK=HEART;
HEAVY BLACK CURVED DOWNWARDS AND RIGHTWARDS=ARROW;HEAVY BLACK CURVED UPWARDS AND RIGHTWARDS=ARROW;
HEAVY BLACK-FEATHERED NORTH EAST=ARROW;HEAVY BLACK-FEATHERED RIGHTWARDS=ARROW;
HEAVY BLACK-FEATHERED SOUTH EAST=ARROW;HEAVY CHECK=MARK;HEAVY CHEVRON=SNOWFLAKE;
HEAVY CIRCLE WITH CIRCLE=INSIDE;HEAVY CIRCLE WITH STROKE AND TWO DOTS=ABOVE;HEAVY CIRCLED=SALTIRE;
HEAVY CONCAVE-POINTED BLACK RIGHTWARDS=ARROW;HEAVY DASHED TRIANGLE-HEADED RIGHTWARDS=ARROW;
HEAVY DIVISION=SIGN;HEAVY DOLLAR=SIGN;HEAVY DOUBLE COMMA QUOTATION MARK=ORNAMENT;
HEAVY DOUBLE TURNED COMMA QUOTATION MARK=ORNAMENT;HEAVY DOWNWARDS ARROW WITH EQUILATERAL=ARROWHEAD;
HEAVY DOWNWARDS ARROW WITH LARGE EQUILATERAL=ARROWHEAD;HEAVY EIGHT POINTED BLACK=STAR;
HEAVY EIGHT POINTED PINWHEEL=STAR;HEAVY EIGHT POINTED RECTILINEAR BLACK=STAR;
HEAVY EIGHT SPOKED=ASTERISK;HEAVY EIGHT TEARDROP-SPOKED PROPELLER=ASTERISK;HEAVY EQUALS=SIGN;
HEAVY EXCLAMATION MARK=ORNAMENT,SYMBOL;HEAVY FIVE POINTED BLACK=STAR;HEAVY FIVE SPOKED=ASTERISK;
HEAVY FOUR BALLOON-SPOKED=ASTERISK;HEAVY GREEK=CROSS;HEAVY HEART EXCLAMATION MARK=ORNAMENT;
HEAVY HORIZONTAL=FILL;HEAVY INTERROBANG=ORNAMENT;HEAVY LARGE=CIRCLE;HEAVY LATIN=CROSS;
HEAVY LEFT-POINTING ANGLE BRACKET=ORNAMENT;HEAVY LEFT-POINTING ANGLE QUOTATION MARK=ORNAMENT;
HEAVY LEFTWARDS ARROW WITH EQUILATERAL=ARROWHEAD;
HEAVY LEFTWARDS ARROW WITH LARGE EQUILATERAL=ARROWHEAD;HEAVY LIGATURE OPEN ET=ORNAMENT;
HEAVY LOW DOUBLE COMMA QUOTATION MARK=ORNAMENT;HEAVY LOW SINGLE COMMA QUOTATION MARK=ORNAMENT;
HEAVY LOWER RIGHT-SHADOWED WHITE RIGHTWARDS=ARROW;HEAVY MINUS=SIGN;HEAVY MULTIPLICATION=X;
HEAVY NORTH EAST=ARROW;HEAVY NORTH EAST POINTING=BUD;HEAVY NORTH EAST POINTING VINE=LEAF;
HEAVY NORTH WEST POINTING=BUD;HEAVY NORTH WEST POINTING VINE=LEAF;HEAVY OPEN CENTRE=CROSS;
HEAVY OUTLINED BLACK=STAR;HEAVY OVAL WITH OVAL=INSIDE;HEAVY PLUS=SIGN;
HEAVY RIGHT-POINTING ANGLE BRACKET=ORNAMENT;HEAVY RIGHT-POINTING ANGLE QUOTATION MARK=ORNAMENT;
HEAVY RIGHTWARDS=ARROW;HEAVY RIGHTWARDS ARROW WITH EQUILATERAL=ARROWHEAD;
HEAVY RIGHTWARDS ARROW WITH LARGE EQUILATERAL=ARROWHEAD;HEAVY ROUND-TIPPED RIGHTWARDS=ARROW;
HEAVY SANS-SERIF INTERROBANG=ORNAMENT;HEAVY SCRIPT LIGATURE ET=ORNAMENT;
HEAVY SINGLE COMMA QUOTATION MARK=ORNAMENT;HEAVY SINGLE TURNED COMMA QUOTATION MARK=ORNAMENT;
HEAVY SIX POINTED BLACK=STAR;HEAVY SIX SPOKED=ASTERISK;HEAVY SOUTH EAST=ARROW;
HEAVY SOUTH EAST POINTING=BUD;HEAVY SOUTH EAST POINTING VINE=LEAF;HEAVY SOUTH WEST POINTING=BUD;
HEAVY SOUTH WEST POINTING VINE=LEAF;HEAVY TEARDROP-SHANKED RIGHTWARDS=ARROW;
HEAVY TEARDROP-SPOKED=ASTERISK;HEAVY TEARDROP-SPOKED PINWHEEL=ASTERISK;
HEAVY TRIANGLE-HEADED RIGHTWARDS=ARROW;HEAVY TWELVE POINTED BLACK=STAR;
HEAVY TWELVE POINTED PINWHEEL=STAR;HEAVY UPPER RIGHT-SHADOWED WHITE RIGHTWARDS=ARROW;
HEAVY UPWARDS ARROW WITH EQUILATERAL=ARROWHEAD;
HEAVY UPWARDS ARROW WITH LARGE EQUILATERAL=ARROWHEAD;HEAVY VERTICAL=BAR;
HEAVY WEDGE-TAILED RIGHTWARDS=ARROW;HEAVY WHITE=CIRCLE,SQUARE;HEAVY WHITE DOWN-POINTING=TRIANGLE;
HEAVY WIDE-HEADED RIGHTWARDS=ARROW;HEBREW ACCENT=DARGA,DEHI,ETNAHTA,GERESH,GERSHAYIM,ILUY,MAHAPAKH,
MERKHA,MUNAH,OLE,PASHTA,PAZER,QADMA,REVIA,SEGOL,SHALSHELET,TEVIR,TIPEHA,YETIV,ZARQA,ZINOR;
HEBREW ACCENT ATNAH=HAFUKH;HEBREW ACCENT GERESH=MUQDAM;HEBREW ACCENT MERKHA=KEFULA;
HEBREW ACCENT QARNEY=PARA;HEBREW ACCENT TELISHA=GEDOLA,QETANA;HEBREW ACCENT YERAH BEN=YOMO;
HEBREW ACCENT ZAQEF=GADOL,QATAN;HEBREW LETTER=ALEF,AYIN,BET,DALET,GIMEL,HE,HET,KAF,LAMED,MEM,NUN,
PE,QOF,RESH,SAMEKH,SHIN,TAV,TET,TSADI,VAV,YOD,ZAYIN;HEBREW LETTER ALEF WITH=MAPIQ,PATAH,QAMATS;
HEBREW LETTER ALTERNATIVE=AYIN;HEBREW LETTER ALTERNATIVE PLUS=SIGN;HEBREW LETTER BET WITH=DAGESH,
RAFE;HEBREW LETTER DALET WITH=DAGESH;HEBREW LETTER FINAL=KAF,MEM,NUN,PE,TSADI;
HEBREW LETTER FINAL KAF WITH=DAGESH;HEBREW LETTER FINAL PE WITH=DAGESH;
HEBREW LETTER GIMEL WITH=DAGESH;HEBREW LETTER HE WITH=MAPIQ;HEBREW LETTER KAF WITH=DAGESH,RAFE;
HEBREW LETTER LAMED WITH=DAGESH;HEBREW LETTER MEM WITH=DAGESH;HEBREW LETTER NUN WITH=DAGESH;
HEBREW LETTER PE WITH=DAGESH,RAFE;HEBREW LETTER QOF WITH=DAGESH;HEBREW LETTER RESH WITH=DAGESH;
HEBREW LETTER SAMEKH WITH=DAGESH;HEBREW LETTER SHIN WITH=DAGESH;
HEBREW LETTER SHIN WITH DAGESH AND SHIN=DOT;HEBREW LETTER SHIN WITH DAGESH AND SIN=DOT;
HEBREW LETTER SHIN WITH SHIN=DOT;HEBREW LETTER SHIN WITH SIN=DOT;HEBREW LETTER TAV WITH=DAGESH;
HEBREW LETTER TET WITH=DAGESH;HEBREW LETTER TSADI WITH=DAGESH;HEBREW LETTER VAV WITH=DAGESH,HOLAM;
HEBREW LETTER WIDE=ALEF,DALET,HE,KAF,LAMED,RESH,TAV;HEBREW LETTER WIDE FINAL=MEM;
HEBREW LETTER YOD WITH=DAGESH,HIRIQ;HEBREW LETTER ZAYIN WITH=DAGESH;HEBREW LIGATURE ALEF=LAMED;
HEBREW LIGATURE YIDDISH DOUBLE=VAV,YOD;HEBREW LIGATURE YIDDISH VAV=YOD;
HEBREW LIGATURE YIDDISH YOD YOD=PATAH;HEBREW MARK LOWER=DOT;HEBREW MARK MASORA=CIRCLE;
HEBREW MARK UPPER=DOT;HEBREW POINT=HIRIQ,HOLAM,METEG,PATAH,QAMATS,QUBUTS,RAFE,SEGOL,SHEVA,TSERE;
HEBREW POINT DAGESH OR=MAPIQ;HEBREW POINT HATAF=PATAH,QAMATS,SEGOL;
HEBREW POINT HOLAM HASER FOR=VAV;HEBREW POINT JUDEO-SPANISH=VARIKA;HEBREW POINT QAMATS=QATAN;
HEBREW POINT SHIN=DOT;HEBREW POINT SIN=DOT;HEBREW PUNCTUATION=GERESH,GERSHAYIM,MAQAF,PASEQ;
HEBREW PUNCTUATION NUN=HAFUKHA;HEBREW PUNCTUATION SOF=PASUQ;HEBREW YOD=TRIANGLE;
HELLSCHREIBER PAUSE=SYMBOL;HELM=SYMBOL;HELMET WITH WHITE=CROSS;HENTAIGANA LETTER=A-1,A-2,A-3,A-WO,
E-1,E-2,E-3,E-4,E-5,E-6,HA-1,HA-10,HA-11,HA-2,HA-3,HA-4,HA-5,HA-6,HA-7,HA-8,HA-9,HE-1,HE-2,HE-3,
HE-4,HE-5,HE-6,HE-7,HI-1,HI-2,HI-3,HI-4,HI-5,HI-6,HI-7,HO-1,HO-2,HO-3,HO-4,HO-5,HO-6,HO-7,HO-8,
HU-1,HU-2,HU-3,I-1,I-2,I-3,I-4,KA-1,KA-10,KA-11,KA-2,KA-3,KA-4,KA-5,KA-6,KA-7,KA-8,KA-9,KA-KE,KE-1,
KE-2,KE-3,KE-4,KE-5,KE-6,KI-1,KI-2,KI-3,KI-4,KI-5,KI-6,KI-7,KI-8,KO-1,KO-2,KO-3,KO-KI,KU-1,KU-2,
KU-3,KU-4,KU-5,KU-6,KU-7,MA-1,MA-2,MA-3,MA-4,MA-5,MA-6,MA-7,ME-1,ME-2,ME-MA,MI-1,MI-2,MI-3,MI-4,
MI-5,MI-6,MI-7,MO-1,MO-2,MO-3,MO-4,MO-5,MO-6,MU-1,MU-2,MU-3,MU-4,N-MU-MO-1,N-MU-MO-2,NA-1,NA-2,
NA-3,NA-4,NA-5,NA-6,NA-7,NA-8,NA-9,NE-1,NE-2,NE-3,NE-4,NE-5,NE-6,NE-KO,NI-1,NI-2,NI-3,NI-4,NI-5,
NI-6,NI-7,NI-TE,NO-1,NO-2,NO-3,NO-4,NO-5,NU-1,NU-2,NU-3,O-1,O-2,O-3,RA-1,RA-2,RA-3,RA-4,RE-1,RE-2,
RE-3,RE-4,RI-1,RI-2,RI-3,RI-4,RI-5,RI-6,RI-7,RO-1,RO-2,RO-3,RO-4,RO-5,RO-6,RU-1,RU-2,RU-3,RU-4,
RU-5,RU-6,SA-1,SA-2,SA-3,SA-4,SA-5,SA-6,SA-7,SA-8,SE-1,SE-2,SE-3,SE-4,SE-5,SI-1,SI-2,SI-3,SI-4,
SI-5,SI-6,SO-1,SO-2,SO-3,SO-4,SO-5,SO-6,SO-7,SU-1,SU-2,SU-3,SU-4,SU-5,SU-6,SU-7,SU-8,TA-1,TA-2,
TA-3,TA-4,TE-1,TE-2,TE-3,TE-4,TE-5,TE-6,TE-7,TE-8,TE-9,TI-1,TI-2,TI-3,TI-4,TI-5,TI-6,TI-7,TO-1,
TO-2,TO-3,TO-4,TO-5,TO-6,TO-RA,TU-1,TU-2,TU-3,TU-4,TU-TO,U-1,U-2,U-3,U-4,U-5,WA-1,WA-2,WA-3,WA-4,
WA-5,WE-1,WE-2,WE-3,WE-4,WI-1,WI-2,WI-3,WI-4,WI-5,WO-1,WO-2,WO-3,WO-4,WO-5,WO-6,WO-7,YA-1,YA-2,
YA-3,YA-4,YA-5,YA-YO,YO-1,YO-2,YO-3,YO-4,YO-5,YO-6,YU-1,YU-2,YU-3,YU-4;HERMITIAN CONJUGATE=MATRIX;
HEXAGRAM FOR=ABUNDANCE,APPROACH,BREAKTHROUGH,CONFLICT,CONTEMPLATION,DECREASE,DELIVERANCE,
DEVELOPMENT,DISPERSION,DURATION,ENTHUSIASM,FELLOWSHIP,FOLLOWING,GRACE,INCREASE,INFLUENCE,INNOCENCE,
LIMITATION,MODESTY,OBSTRUCTION,OPPOSITION,OPPRESSION,PEACE,PROGRESS,RETREAT,RETURN,REVOLUTION,
STANDSTILL,TREADING,WAITING;HEXAGRAM FOR AFTER=COMPLETION;HEXAGRAM FOR BEFORE=COMPLETION;
HEXAGRAM FOR BITING=THROUGH;HEXAGRAM FOR COMING TO=MEET;HEXAGRAM FOR DARKENING OF THE=LIGHT;
HEXAGRAM FOR DIFFICULTY AT THE=BEGINNING;HEXAGRAM FOR GATHERING=TOGETHER;
HEXAGRAM FOR GREAT=POSSESSION,POWER,PREPONDERANCE,TAMING;HEXAGRAM FOR HOLDING=TOGETHER;
HEXAGRAM FOR INNER=TRUTH;HEXAGRAM FOR MOUTH=CORNERS;HEXAGRAM FOR PUSHING=UPWARD;
HEXAGRAM FOR SMALL=PREPONDERANCE,TAMING;HEXAGRAM FOR SPLITTING=APART;HEXAGRAM FOR THE=ARMY,
CAULDRON,FAMILY,WANDERER,WELL;HEXAGRAM FOR THE ABYSMAL=WATER;HEXAGRAM FOR THE AROUSING=THUNDER;
HEXAGRAM FOR THE CLINGING=FIRE;HEXAGRAM FOR THE CREATIVE=HEAVEN;HEXAGRAM FOR THE GENTLE=WIND;
HEXAGRAM FOR THE JOYOUS=LAKE;HEXAGRAM FOR THE KEEPING STILL=MOUNTAIN;
HEXAGRAM FOR THE MARRYING=MAIDEN;HEXAGRAM FOR THE RECEPTIVE=EARTH;HEXAGRAM FOR WORK ON THE=DECAYED;
HEXAGRAM FOR YOUTHFUL=FOLLY;HIGH BRIGHTNESS=SYMBOL;HIGH OCTET=PRESET;HIGH VOLTAGE=SIGN;
HIGH-HEELED=SHOE;HIGH-SPEED=TRAIN;HIGH-SPEED TRAIN WITH BULLET=NOSE;HIKING=BOOT;HINDU=TEMPLE;
HIRAGANA DIGRAPH=YORI;HIRAGANA ITERATION=MARK;HIRAGANA LETTER=A,BA,BE,BI,BO,BU,DA,DE,DI,DO,DU,E,GA,
GE,GI,GO,GU,HA,HE,HI,HO,HU,I,KA,KE,KI,KO,KU,MA,ME,MI,MO,MU,N,NA,NE,NI,NO,NU,O,PA,PE,PI,PO,PU,RA,RE,
RI,RO,RU,SA,SE,SI,SO,SU,TA,TE,TI,TO,TU,U,VU,WA,WE,WI,WO,YA,YO,YU,ZA,ZE,ZI,ZO,ZU;
HIRAGANA LETTER ARCHAIC=WU,YE;HIRAGANA LETTER SMALL=A,E,I,KA,KE,O,TU,U,WA,WE,WI,WO,YA,YO,YU;
HIRAGANA VOICED ITERATION=MARK;HISTORIC=SITE;HOLLOW QUILT SQUARE=ORNAMENT;
HOLLOW QUILT SQUARE ORNAMENT IN BLACK=SQUARE;HONEY=POT;HORIZONTAL=BAR,ELLIPSIS,TABULATION;
HORIZONTAL BLACK=HEXAGON,OCTAGON;HORIZONTAL LINE=EXTENSION;HORIZONTAL MALE WITH STROKE=SIGN;
HORIZONTAL ONE EIGHTH=BLOCK-1358,BLOCK-2,BLOCK-3,BLOCK-4,BLOCK-5,BLOCK-6,BLOCK-7;
HORIZONTAL SCAN=LINE-1,LINE-3,LINE-7,LINE-9;HORIZONTAL TAB=KEY;HORIZONTAL TABULATION=SET;
HORIZONTAL TABULATION WITH=JUSTIFICATION;HORIZONTAL TRAFFIC=LIGHT;HORSE=FACE,RACING;HOT=BEVERAGE,
DOG,PEPPER,SPRINGS;HOURGLASS WITH FLOWING=SAND;HOUSE=BUILDING,BUILDINGS;HOUSE WITH=GARDEN;
HRYVNIA=SIGN;HUGGING=FACE;HUNDRED POINTS=SYMBOL;HUSHED=FACE;HYPHEN=BULLET;HYPHEN WITH=DIAERESIS;
HYPHENATION=POINT;HYSTERESIS=SYMBOL;I LOVE YOU HAND=SIGN;ICE=CREAM,CUBE,SKATE;
ICE HOCKEY STICK AND=PUCK;IDENTICAL=TO;IDENTICAL TO AND SLANTED=PARALLEL;IDENTICAL WITH DOT=ABOVE;
IDENTIFICATION=CARD;IDEOGRAPHIC=COMMA,SPACE;IDEOGRAPHIC ANNOTATION BOTTOM=MARK;
IDEOGRAPHIC ANNOTATION EARTH=MARK;IDEOGRAPHIC ANNOTATION FIRST=MARK;
IDEOGRAPHIC ANNOTATION FOUR=MARK;IDEOGRAPHIC ANNOTATION FOURTH=MARK;
IDEOGRAPHIC ANNOTATION HEAVEN=MARK;IDEOGRAPHIC ANNOTATION LINKING=MARK;
IDEOGRAPHIC ANNOTATION MAN=MARK;IDEOGRAPHIC ANNOTATION MIDDLE=MARK;IDEOGRAPHIC ANNOTATION ONE=MARK;
IDEOGRAPHIC ANNOTATION REVERSE=MARK;IDEOGRAPHIC ANNOTATION SECOND=MARK;
IDEOGRAPHIC ANNOTATION THIRD=MARK;IDEOGRAPHIC ANNOTATION THREE=MARK;
IDEOGRAPHIC ANNOTATION TOP=MARK;IDEOGRAPHIC ANNOTATION TWO=MARK;IDEOGRAPHIC CLOSING=MARK;
IDEOGRAPHIC DEPARTING TONE=MARK;IDEOGRAPHIC DESCRIPTION CHARACTER=OVERLAID;
IDEOGRAPHIC DESCRIPTION CHARACTER ABOVE TO=BELOW;
IDEOGRAPHIC DESCRIPTION CHARACTER ABOVE TO MIDDLE AND=BELOW;
IDEOGRAPHIC DESCRIPTION CHARACTER FULL=SURROUND;IDEOGRAPHIC DESCRIPTION CHARACTER LEFT TO=RIGHT;
IDEOGRAPHIC DESCRIPTION CHARACTER LEFT TO MIDDLE AND=RIGHT;
IDEOGRAPHIC DESCRIPTION CHARACTER SURROUND FROM=ABOVE,BELOW,LEFT;
IDEOGRAPHIC DESCRIPTION CHARACTER SURROUND FROM LOWER=LEFT;
IDEOGRAPHIC DESCRIPTION CHARACTER SURROUND FROM UPPER=LEFT,RIGHT;IDEOGRAPHIC ENTERING TONE=MARK;
IDEOGRAPHIC FULL=STOP;IDEOGRAPHIC HALF FILL=SPACE;IDEOGRAPHIC ITERATION=MARK;
IDEOGRAPHIC LEVEL TONE=MARK;IDEOGRAPHIC NUMBER=ZERO;IDEOGRAPHIC RISING TONE=MARK;
IDEOGRAPHIC TALLY MARK=FIVE,FOUR,ONE,THREE,TWO;IDEOGRAPHIC TELEGRAPH LINE FEED SEPARATOR=SYMBOL;
IDEOGRAPHIC TELEGRAPH SYMBOL FOR=APRIL,AUGUST,DECEMBER,FEBRUARY,JANUARY,JULY,JUNE,MARCH,MAY,
NOVEMBER,OCTOBER,SEPTEMBER;IDEOGRAPHIC TELEGRAPH SYMBOL FOR DAY=EIGHT,EIGHTEEN,ELEVEN,FIFTEEN,FIVE,
FOUR,FOURTEEN,NINE,NINETEEN,ONE,SEVEN,SEVENTEEN,SIX,SIXTEEN,TEN,THIRTEEN,THIRTY,THIRTY-ONE,THREE,
TWELVE,TWENTY,TWENTY-EIGHT,TWENTY-FIVE,TWENTY-FOUR,TWENTY-NINE,TWENTY-ONE,TWENTY-SEVEN,TWENTY-SIX,
TWENTY-THREE,TWENTY-TWO,TWO;IDEOGRAPHIC TELEGRAPH SYMBOL FOR HOUR=EIGHT,EIGHTEEN,ELEVEN,FIFTEEN,
FIVE,FOUR,FOURTEEN,NINE,NINETEEN,ONE,SEVEN,SEVENTEEN,SIX,SIXTEEN,TEN,THIRTEEN,THREE,TWELVE,TWENTY,
TWENTY-FOUR,TWENTY-ONE,TWENTY-THREE,TWENTY-TWO,TWO,ZERO;IDEOGRAPHIC VARIATION=INDICATOR;IMAGE=OF;
IMAGE OF OR APPROXIMATELY EQUAL=TO;IMPERIAL ARAMAIC LETTER=ALEPH,AYIN,BETH,DALETH,GIMEL,HE,HETH,
KAPH,LAMEDH,MEM,NUN,PE,QOPH,RESH,SADHE,SAMEKH,SHIN,TAW,TETH,WAW,YODH,ZAYIN;
IMPERIAL ARAMAIC NUMBER=ONE,TEN,THREE,TWENTY,TWO;IMPERIAL ARAMAIC NUMBER ONE=HUNDRED,THOUSAND;
IMPERIAL ARAMAIC NUMBER TEN=THOUSAND;IMPERIAL ARAMAIC SECTION=SIGN;INBOX=TRAY;INCOMING=ENVELOPE;
INCOMPLETE=INFINITY;INCREASE FONT SIZE=SYMBOL;INCREASES=AS;INDEX POINTING AT THE=VIEWER;
INDIAN RUPEE=SIGN;INDIC SIYAQ=PLACEHOLDER;INDIC SIYAQ ALTERNATE LAKH=MARK;
INDIC SIYAQ FRACTION ONE=HALF,QUARTER;INDIC SIYAQ FRACTION THREE=QUARTERS;INDIC SIYAQ LAKH=MARK;
INDIC SIYAQ NUMBER=EIGHT,EIGHTY,FIFTY,FIVE,FORTY,FOUR,KAROR,KARORAN,LAKH,LAKHAN,NINE,NINETY,ONE,
SEVEN,SEVENTY,SIX,SIXTY,TEN,THIRTY,THREE,TWENTY,TWO;INDIC SIYAQ NUMBER ALTERNATE=ONE,TWO;
INDIC SIYAQ NUMBER ALTERNATE TEN=THOUSAND;INDIC SIYAQ NUMBER EIGHT=HUNDRED,THOUSAND;
INDIC SIYAQ NUMBER EIGHTY=THOUSAND;INDIC SIYAQ NUMBER FIFTY=THOUSAND;
INDIC SIYAQ NUMBER FIVE=HUNDRED,THOUSAND;INDIC SIYAQ NUMBER FORTY=THOUSAND;
INDIC SIYAQ NUMBER FOUR=HUNDRED,THOUSAND;INDIC SIYAQ NUMBER NINE=HUNDRED,THOUSAND;
INDIC SIYAQ NUMBER NINETY=THOUSAND;INDIC SIYAQ NUMBER ONE=HUNDRED,THOUSAND;
INDIC SIYAQ NUMBER PREFIXED=EIGHT,FIVE,FOUR,NINE,ONE,SEVEN,SIX,THREE,TWO;
INDIC SIYAQ NUMBER SEVEN=HUNDRED,THOUSAND;INDIC SIYAQ NUMBER SEVENTY=THOUSAND;
INDIC SIYAQ NUMBER SIX=HUNDRED,THOUSAND;INDIC SIYAQ NUMBER SIXTY=THOUSAND;
INDIC SIYAQ NUMBER TEN=THOUSAND;INDIC SIYAQ NUMBER THIRTY=THOUSAND;
INDIC SIYAQ NUMBER THREE=HUNDRED,THOUSAND;INDIC SIYAQ NUMBER TWENTY=THOUSAND;
INDIC SIYAQ NUMBER TWO=HUNDRED,THOUSAND;INDIC SIYAQ RUPEE=MARK;INFINITY NEGATED WITH VERTICAL=BAR;
INFORMATION=SOURCE;INFORMATION DESK=PERSON;INFORMATION SEPARATOR=FOUR,ONE,THREE,TWO;
INHIBIT ARABIC FORM=SHAPING;INHIBIT SYMMETRIC=SWAPPING;INPUT SYMBOL FOR=NUMBERS,SYMBOLS;
INPUT SYMBOL FOR LATIN=LETTERS;INPUT SYMBOL FOR LATIN CAPITAL=LETTERS;
INPUT SYMBOL FOR LATIN SMALL=LETTERS;INSCRIPTIONAL PAHLAVI LETTER=ALEPH,BETH,DALETH,GIMEL,HE,HETH,
KAPH,LAMEDH,MEM-QOPH,NUN,PE,SADHE,SAMEKH,SHIN,TAW,TETH,WAW-AYIN-RESH,YODH,ZAYIN;
INSCRIPTIONAL PAHLAVI NUMBER=FOUR,ONE,TEN,THREE,TWENTY,TWO;
INSCRIPTIONAL PAHLAVI NUMBER ONE=HUNDRED,THOUSAND;INSCRIPTIONAL PARTHIAN LETTER=ALEPH,AYIN,BETH,
DALETH,GIMEL,HE,HETH,KAPH,LAMEDH,MEM,NUN,PE,QOPH,RESH,SADHE,SAMEKH,SHIN,TAW,TETH,WAW,YODH,ZAYIN;
INSCRIPTIONAL PARTHIAN NUMBER=FOUR,ONE,TEN,THREE,TWENTY,TWO;
INSCRIPTIONAL PARTHIAN NUMBER ONE=HUNDRED,THOUSAND;INSERTION=SYMBOL;INTEGRAL=EXTENSION;
INTEGRAL AROUND A POINT=OPERATOR;INTEGRAL AVERAGE WITH=SLASH;INTEGRAL WITH=INTERSECTION,OVERBAR,
UNDERBAR,UNION;INTEGRAL WITH DOUBLE=STROKE;INTEGRAL WITH LEFTWARDS ARROW WITH=HOOK;
INTEGRAL WITH TIMES=SIGN;INTERIOR=PRODUCT;INTERLINEAR ANNOTATION=ANCHOR,SEPARATOR,TERMINATOR;
INTERLOCKED FEMALE AND MALE=SIGN;INTERSECTION ABOVE=UNION;INTERSECTION ABOVE BAR ABOVE=UNION;
INTERSECTION BESIDE AND JOINED WITH=INTERSECTION;INTERSECTION WITH=DOT,OVERBAR;
INTERSECTION WITH LOGICAL=AND;INVERSE=BULLET;INVERSE CHECK=MARK;INVERSE CHECKER BOARD=FILL;
INVERSE DOWNWARDS ARROW WITH TIP=LEFTWARDS;INVERSE MEDIUM=SHADE;INVERSE WHITE=CIRCLE;
INVERTED=INTERROBANG,PENTAGRAM,UNDERTIE;INVERTED EXCLAMATION=MARK;INVERTED LAZY=S;
INVERTED LOW=KAVYKA;INVERTED LOW KAVYKA WITH KAVYKA=ABOVE;INVERTED OHM=SIGN;INVERTED QUESTION=MARK;
INVISIBLE=PLUS,SEPARATOR,TIMES;IZAKAYA=LANTERN;JAPANESE=CASTLE,DOLLS,GOBLIN,OGRE;
JAPANESE BANK=SYMBOL;JAPANESE INDUSTRIAL STANDARD=SYMBOL;JAPANESE POST=OFFICE;
JAPANESE SYMBOL FOR=BEGINNER;JAVANESE=PANGKON,PANGRANGKEP;JAVANESE CONSONANT SIGN=CAKRA,KERET,
PENGKAL;JAVANESE DIGIT=EIGHT,FIVE,FOUR,NINE,ONE,SEVEN,SIX,THREE,TWO,ZERO;JAVANESE LEFT=RERENGGAN;
JAVANESE LETTER=A,AI,BA,CA,DA,DDA,E,GA,HA,I,II,JA,KA,LA,MA,NA,NGA,NYA,O,PA,RA,SA,TA,TTA,U,WA,YA;
JAVANESE LETTER BA=MURDA;JAVANESE LETTER CA=MURDA;JAVANESE LETTER DA=MAHAPRANA;
JAVANESE LETTER DDA=MAHAPRANA;JAVANESE LETTER GA=MURDA;JAVANESE LETTER I=KAWI;
JAVANESE LETTER JA=MAHAPRANA;JAVANESE LETTER KA=MURDA,SASAK;JAVANESE LETTER NA=MURDA;
JAVANESE LETTER NGA=LELET;JAVANESE LETTER NGA LELET=RASWADI;JAVANESE LETTER NYA=MURDA;
JAVANESE LETTER PA=CEREK,MURDA;JAVANESE LETTER RA=AGUNG;JAVANESE LETTER SA=MAHAPRANA,MURDA;
JAVANESE LETTER TA=MURDA;JAVANESE LETTER TTA=MAHAPRANA;JAVANESE PADA=ADEG,ANDAP,ISEN-ISEN,LINGSA,
LUHUR,LUNGSI,MADYA,PANGKAT,PISELEH,WINDU;JAVANESE PADA ADEG=ADEG;JAVANESE PADA TIRTA=TUMETES;
JAVANESE RIGHT=RERENGGAN;JAVANESE SIGN=CECAK,LAYAR,PANYANGGA,WIGNYAN;JAVANESE SIGN CECAK=TELU;
JAVANESE TURNED PADA=PISELEH;JAVANESE VOWEL SIGN=PEPET,SUKU,TALING,TARUNG,TOLONG,WULU;
JAVANESE VOWEL SIGN DIRGA=MURE;JAVANESE VOWEL SIGN SUKU=MENDUT;JAVANESE VOWEL SIGN WULU=MELIK;
JIGSAW PUZZLE=PIECE;KAITHI=DANDA;KAITHI ABBREVIATION=SIGN;KAITHI DOUBLE=DANDA;
KAITHI DOUBLE SECTION=MARK;KAITHI ENUMERATION=SIGN;KAITHI LETTER=A,AA,AI,AU,BA,BHA,CA,CHA,DA,DDA,
DDDHA,DDHA,DHA,E,GA,GHA,HA,I,II,JA,JHA,KA,KHA,LA,MA,NA,NGA,NNA,NYA,O,PA,PHA,RA,RHA,SA,SHA,SSA,TA,
THA,TTA,TTHA,U,UU,VA,YA;KAITHI NUMBER=SIGN;KAITHI NUMBER SIGN=ABOVE;KAITHI SECTION=MARK;
KAITHI SIGN=ANUSVARA,CANDRABINDU,NUKTA,VIRAMA,VISARGA;KAITHI VOWEL SIGN=AA,AI,AU,E,I,II,O,U,UU;
KAITHI VOWEL SIGN VOCALIC=R;KANGXI RADICAL=AGAIN,AND,ARRIVE,ARROW,AXE,BADGER,BAMBOO,BEAN,BIG,BIRD,
BITTER,BLACK,BLOOD,BLUE,BOAT,BODY,BONE,BOW,BRANCH,BRISTLE,BRUSH,CART,CAULDRON,CAVE,CHILD,CITY,CLAN,
CLAW,CLIFF,CLOTHES,COLOR,COMPARE,CORPSE,COVER,COW,DEATH,DEER,DIPPER,DISH,DISTINGUISH,DIVINATION,
DOG,DOOR,DOT,DRAGON,DRUM,DRY,EAR,EARTH,EAT,EIGHT,EMBROIDERY,ENCLOSURE,ENTER,EVEN,EVENING,EYE,FACE,
FANG,FATHER,FEATHER,FIELD,FIGHT,FIRE,FISH,FLUTE,FLY,FOOT,FRAGRANT,FROG,FUR,GATE,GHOST,GO,GOLD,
GRAIN,GRASS,HAIR,HALBERD,HAND,HEAD,HEART,HEMP,HOOK,HORN,HORSE,ICE,INCH,INSECT,JADE,JAR,KNIFE,LACK,
LAME,LEAF,LEATHER,LEEK,LEGS,LID,LIFE,LINE,LONG,MAN,MEAT,MELON,MILLET,MINISTER,MOON,MORNING,MORTAR,
MOUND,MOUNTAIN,MOUTH,NET,NOSE,NOT,OLD,ONE,ONESELF,OPPOSE,PIG,PLOW,POWER,PRIVATE,PROFOUND,RAIN,RAP,
RAT,RED,RICE,RIVER,ROOF,RUN,SALT,SAY,SCHOLAR,SCRIPT,SEAL,SECOND,SEE,SELF,SHEEP,SHELL,SHOOT,
SICKNESS,SILK,SKIN,SLASH,SLAVE,SLICE,SMALL,SNOUT,SOUND,SPEAR,SPEECH,SPIRIT,SPOON,SPROUT,SQUARE,
STAND,STEAM,STEP,STONE,STOP,STOPPING,SUN,SWEET,TABLE,TALL,TEN,TIGER,TILE,TONGUE,TOOTH,TRACK,TREE,
TRIPOD,TURBAN,TURTLE,TWO,USE,VALLEY,VILLAGE,WALK,WATER,WEAPON,WEST,WHEAT,WHITE,WIND,WINE,WOMAN,
WORK,WRAP,WRONG,YELLOW;KANGXI RADICAL BOLT OF=CLOTH;KANGXI RADICAL DO=NOT;
KANGXI RADICAL DOTTED=CLIFF,TENT;KANGXI RADICAL DOUBLE=X;KANGXI RADICAL DOWN=BOX;
KANGXI RADICAL GO=SLOWLY;KANGXI RADICAL HALF TREE=TRUNK;KANGXI RADICAL HIDING=ENCLOSURE;
KANGXI RADICAL LONG=STRIDE;KANGXI RADICAL OPEN=BOX;KANGXI RADICAL RIGHT OPEN=BOX;
KANGXI RADICAL SACRIFICIAL=WINE;KANGXI RADICAL SHORT=THREAD;KANGXI RADICAL SHORT TAILED=BIRD;
KANGXI RADICAL TANNED=LEATHER;KANGXI RADICAL TWO=HANDS;KANGXI RADICAL WALK=ENCLOSURE;
KANNADA AI LENGTH=MARK;KANNADA DIGIT=EIGHT,FIVE,FOUR,NINE,ONE,SEVEN,SIX,THREE,TWO,ZERO;
KANNADA LENGTH=MARK;KANNADA LETTER=A,AA,AI,AU,BA,BHA,CA,CHA,DA,DDA,DDHA,DHA,E,EE,FA,GA,GHA,HA,I,II,
JA,JHA,KA,KHA,LA,LLA,LLLA,MA,NA,NGA,NNA,NYA,O,OO,PA,PHA,RA,RRA,SA,SHA,SSA,TA,THA,TTA,TTHA,U,UU,VA,
YA;KANNADA LETTER NAKAARA=POLLU;KANNADA LETTER VOCALIC=L,LL,R,RR;KANNADA SIGN=ANUSVARA,AVAGRAHA,
CANDRABINDU,JIHVAMULIYA,NUKTA,SIDDHAM,UPADHMANIYA,VIRAMA,VISARGA;KANNADA SIGN SPACING=CANDRABINDU;
KANNADA VOWEL SIGN=AA,AI,AU,E,EE,I,II,O,OO,U,UU;KANNADA VOWEL SIGN VOCALIC=L,LL,R,RR;
KATAKANA DIGRAPH=KOTO;KATAKANA ITERATION=MARK;KATAKANA LETTER=A,BA,BE,BI,BO,BU,DA,DE,DI,DO,DU,E,GA,
GE,GI,GO,GU,HA,HE,HI,HO,HU,I,KA,KE,KI,KO,KU,MA,ME,MI,MO,MU,N,NA,NE,NI,NO,NU,O,PA,PE,PI,PO,PU,RA,RE,
RI,RO,RU,SA,SE,SI,SO,SU,TA,TE,TI,TO,TU,U,VA,VE,VI,VO,VU,WA,WE,WI,WO,YA,YO,YU,ZA,ZE,ZI,ZO,ZU;
KATAKANA LETTER ARCHAIC=E,WU,YE,YI;KATAKANA LETTER MINNAN=TONE-2,TONE-3,TONE-4,TONE-5,TONE-7,
TONE-8;KATAKANA LETTER MINNAN NASALIZED=TONE-1,TONE-2,TONE-3,TONE-4,TONE-5,TONE-7,TONE-8;
KATAKANA LETTER SMALL=A,E,HA,HE,HI,HO,HU,I,KA,KE,KU,MU,N,NU,O,RA,RE,RI,RO,RU,SI,SU,TO,TU,U,WA,WE,
WI,WO,YA,YO,YU;KATAKANA MIDDLE=DOT;KATAKANA VOICED ITERATION=MARK;KATAKANA-HIRAGANA DOUBLE=HYPHEN;
KATAKANA-HIRAGANA PROLONGED SOUND=MARK;KATAKANA-HIRAGANA SEMI-VOICED SOUND=MARK;
KATAKANA-HIRAGANA VOICED SOUND=MARK;KAYAH LI DIGIT=EIGHT,FIVE,FOUR,NINE,ONE,SEVEN,SIX,THREE,TWO,
ZERO;KAYAH LI LETTER=A,BA,CA,DA,GA,HA,HTA,I,KA,KHA,LA,MA,NA,NGA,NYA,OE,OO,PA,PHA,RA,SA,SHA,TA,THA,
VA,WA,YA,ZA;KAYAH LI SIGN=CWI,SHYA;KAYAH LI TONE=CALYA,PLOPHU;KAYAH LI TONE CALYA=PLOPHU;
KAYAH LI VOWEL=E,EE,O,U,UE;KELVIN=SIGN;KEYBOARD AND=MOUSE;KEYCAP=TEN;KHAROSHTHI=VIRAMA;
KHAROSHTHI DIGIT=FOUR,ONE,THREE,TWO;KHAROSHTHI FRACTION ONE=HALF;KHAROSHTHI LETTER=A,BA,BHA,CA,CHA,
DA,DDA,DDHA,DHA,GA,GHA,HA,JA,KA,KHA,KKA,LA,MA,NA,NNA,NYA,PA,PHA,RA,SA,SHA,SSA,TA,THA,TTA,TTHA,TTTA,
TTTHA,VA,VHA,YA,ZA;KHAROSHTHI NUMBER=TEN,TWENTY;KHAROSHTHI NUMBER ONE=HUNDRED,THOUSAND;
KHAROSHTHI PUNCTUATION=CIRCLE,DANDA,DOT,LINES,LOTUS,MANGALAM;KHAROSHTHI PUNCTUATION CRESCENT=BAR;
KHAROSHTHI PUNCTUATION DOUBLE=DANDA;KHAROSHTHI PUNCTUATION SMALL=CIRCLE;KHAROSHTHI SIGN=ANUSVARA,
CAUDA,VISARGA;KHAROSHTHI SIGN BAR=ABOVE;KHAROSHTHI SIGN DOT=BELOW;
KHAROSHTHI SIGN DOUBLE RING=BELOW;KHAROSHTHI VOWEL LENGTH=MARK;KHAROSHTHI VOWEL SIGN=E,I,O,U;
KHAROSHTHI VOWEL SIGN VOCALIC=R;KHITAN SMALL SCRIPT=CHARACTER-18B00,CHARACTER-18B01,
CHARACTER-18B02,CHARACTER-18B03,CHARACTER-18B04,CHARACTER-18B05,CHARACTER-18B06,CHARACTER-18B07,
CHARACTER-18B08,CHARACTER-18B09,CHARACTER-18B0A,CHARACTER-18B0B,CHARACTER-18B0C,CHARACTER-18B0D,
CHARACTER-18B0E,CHARACTER-18B0F,CHARACTER-18B10,CHARACTER-18B11,CHARACTER-18B12,CHARACTER-18B13,
CHARACTER-18B14,CHARACTER-18B15,CHARACTER-18B16,CHARACTER-18B17,CHARACTER-18B18,CHARACTER-18B19,
CHARACTER-18B1A,CHARACTER-18B1B,CHARACTER-18B1C,CHARACTER-18B1D,CHARACTER-18B1E,CHARACTER-18B1F,
CHARACTER-18B20,CHARACTER-18B21,CHARACTER-18B22,CHARACTER-18B23,CHARACTER-18B24,CHARACTER-18B25,
CHARACTER-18B26,CHARACTER-18B27,CHARACTER-18B28,CHARACTER-18B29,CHARACTER-18B2A,CHARACTER-18B2B,
CHARACTER-18B2C,CHARACTER-18B2D,CHARACTER-18B2E,CHARACTER-18B2F,CHARACTER-18B30,CHARACTER-18B31,
CHARACTER-18B32,CHARACTER-18B33,CHARACTER-18B34,CHARACTER-18B35,CHARACTER-18B36,CHARACTER-18B37,
CHARACTER-18B38,CHARACTER-18B39,CHARACTER-18B3A,CHARACTER-18B3B,CHARACTER-18B3C,CHARACTER-18B3D,
CHARACTER-18B3E,CHARACTER-18B3F,CHARACTER-18B40,CHARACTER-18B41,CHARACTER-18B42,CHARACTER-18B43,
CHARACTER-18B44,CHARACTER-18B45,CHARACTER-18B46,CHARACTER-18B47,CHARACTER-18B48,CHARACTER-18B49,
CHARACTER-18B4A,CHARACTER-18B4B,CHARACTER-18B4C,CHARACTER-18B4D,CHARACTER-18B4E,CHARACTER-18B4F,
CHARACTER-18B50,CHARACTER-18B51,CHARACTER-18B52,CHARACTER-18B53,CHARACTER-18B54,CHARACTER-18B55,
CHARACTER-18B56,CHARACTER-18B57,CHARACTER-18B58,CHARACTER-18B59,CHARACTER-18B5A,CHARACTER-18B5B,
CHARACTER-18B5C,CHARACTER-18B5D,CHARACTER-18B5E,CHARACTER-18B5F,CHARACTER-18B60,CHARACTER-18B61,
CHARACTER-18B62,CHARACTER-18B63,CHARACTER-18B64,CHARACTER-18B65,CHARACTER-18B66,CHARACTER-18B67,
CHARACTER-18B68,CHARACTER-18B69,CHARACTER-18B6A,CHARACTER-18B6B,CHARACTER-18B6C,CHARACTER-18B6D,
CHARACTER-18B6E,CHARACTER-18B6F,CHARACTER-18B70,CHARACTER-18B71,CHARACTER-18B72,CHARACTER-18B73,
CHARACTER-18B74,CHARACTER-18B75,CHARACTER-18B76,CHARACTER-18B77,CHARACTER-18B78,CHARACTER-18B79,
CHARACTER-18B7A,CHARACTER-18B7B,CHARACTER-18B7C,CHARACTER-18B7D,CHARACTER-18B7E,CHARACTER-18B7F,
CHARACTER-18B80,CHARACTER-18B81,CHARACTER-18B82,CHARACTER-18B83,CHARACTER-18B84,CHARACTER-18B85,
CHARACTER-18B86,CHARACTER-18B87,CHARACTER-18B88,CHARACTER-18B89,CHARACTER-18B8A,CHARACTER-18B8B,
CHARACTER-18B8C,CHARACTER-18B8D,CHARACTER-18B8E,CHARACTER-18B8F,CHARACTER-18B90,CHARACTER-18B91,
CHARACTER-18B92,CHARACTER-18B93,CHARACTER-18B94,CHARACTER-18B95,CHARACTER-18B96,CHARACTER-18B97,
CHARACTER-18B98,CHARACTER-18B99,CHARACTER-18B9A,CHARACTER-18B9B,CHARACTER-18B9C,CHARACTER-18B9D,
CHARACTER-18B9E,CHARACTER-18B9F,CHARACTER-18BA0,CHARACTER-18BA1,CHARACTER-18BA2,CHARACTER-18BA3,
CHARACTER-18BA4,CHARACTER-18BA5,CHARACTER-18BA6,CHARACTER-18BA7,CHARACTER-18BA8,CHARACTER-18BA9,
CHARACTER-18BAA,CHARACTER-18BAB,CHARACTER-18BAC,CHARACTER-18BAD,CHARACTER-18BAE,CHARACTER-18BAF,
CHARACTER-18BB0,CHARACTER-18BB1,CHARACTER-18BB2,CHARACTER-18BB3,CHARACTER-18BB4,CHARACTER-18BB5,
CHARACTER-18BB6,CHARACTER-18BB7,CHARACTER-18BB8,CHARACTER-18BB9,CHARACTER-18BBA,CHARACTER-18BBB,
CHARACTER-18BBC,CHARACTER-18BBD,CHARACTER-18BBE,CHARACTER-18BBF,CHARACTER-18BC0,CHARACTER-18BC1,
CHARACTER-18BC2,CHARACTER-18BC3,CHARACTER-18BC4,CHARACTER-18BC5,CHARACTER-18BC6,CHARACTER-18BC7,
CHARACTER-18BC8,CHARACTER-18BC9,CHARACTER-18BCA,CHARACTER-18BCB,CHARACTER-18BCC,CHARACTER-18BCD,
CHARACTER-18BCE,CHARACTER-18BCF,CHARACTER-18BD0,CHARACTER-18BD1,CHARACTER-18BD2,CHARACTER-18BD3,
CHARACTER-18BD4,CHARACTER-18BD5,CHARACTER-18BD6,CHARACTER-18BD7,CHARACTER-18BD8,CHARACTER-18BD9,
CHARACTER-18BDA,CHARACTER-18BDB,CHARACTER-18BDC,CHARACTER-18BDD,CHARACTER-18BDE,CHARACTER-18BDF,
CHARACTER-18BE0,CHARACTER-18BE1,CHARACTER-18BE2,CHARACTER-18BE3,CHARACTER-18BE4,CHARACTER-18BE5,
CHARACTER-18BE6,CHARACTER-18BE7,CHARACTER-18BE8,CHARACTER-18BE9,CHARACTER-18BEA,CHARACTER-18BEB,
CHARACTER-18BEC,CHARACTER-18BED,CHARACTER-18BEE,CHARACTER-18BEF,CHARACTER-18BF0,CHARACTER-18BF1,
CHARACTER-18BF2,CHARACTER-18BF3,CHARACTER-18BF4,CHARACTER-18BF5,CHARACTER-18BF6,CHARACTER-18BF7,
CHARACTER-18BF8,CHARACTER-18BF9,CHARACTER-18BFA,CHARACTER-18BFB,CHARACTER-18BFC,CHARACTER-18BFD,
CHARACTER-18BFE,CHARACTER-18BFF,CHARACTER-18C00,CHARACTER-18C01,CHARACTER-18C02,CHARACTER-18C03,
CHARACTER-18C04,CHARACTER-18C05,CHARACTER-18C06,CHARACTER-18C07,CHARACTER-18C08,CHARACTER-18C09,
CHARACTER-18C0A,CHARACTER-18C0B,CHARACTER-18C0C,CHARACTER-18C0D,CHARACTER-18C0E,CHARACTER-18C0F,
CHARACTER-18C10,CHARACTER-18C11,CHARACTER-18C12,CHARACTER-18C13,CHARACTER-18C14,CHARACTER-18C15,
CHARACTER-18C16,CHARACTER-18C17,CHARACTER-18C18,CHARACTER-18C19,CHARACTER-18C1A,CHARACTER-18C1B,
CHARACTER-18C1C,CHARACTER-18C1D,CHARACTER-18C1E,CHARACTER-18C1F,CHARACTER-18C20,CHARACTER-18C21,
CHARACTER-18C22,CHARACTER-18C23,CHARACTER-18C24,CHARACTER-18C25,CHARACTER-18C26,CHARACTER-18C27,
CHARACTER-18C28,CHARACTER-18C29,CHARACTER-18C2A,CHARACTER-18C2B,CHARACTER-18C2C,CHARACTER-18C2D,
CHARACTER-18C2E,CHARACTER-18C2F,CHARACTER-18C30,CHARACTER-18C31,CHARACTER-18C32,CHARACTER-18C33,
CHARACTER-18C34,CHARACTER-18C35,CHARACTER-18C36,CHARACTER-18C37,CHARACTER-18C38,CHARACTER-18C39,
CHARACTER-18C3A,CHARACTER-18C3B,CHARACTER-18C3C,CHARACTER-18C3D,CHARACTER-18C3E,CHARACTER-18C3F,
CHARACTER-18C40,CHARACTER-18C41,CHARACTER-18C42,CHARACTER-18C43,CHARACTER-18C44,CHARACTER-18C45,
CHARACTER-18C46,CHARACTER-18C47,CHARACTER-18C48,CHARACTER-18C49,CHARACTER-18C4A,CHARACTER-18C4B,
CHARACTER-18C4C,CHARACTER-18C4D,CHARACTER-18C4E,CHARACTER-18C4F,CHARACTER-18C50,CHARACTER-18C51,
CHARACTER-18C52,CHARACTER-18C53,CHARACTER-18C54,CHARACTER-18C55,CHARACTER-18C56,CHARACTER-18C57,
CHARACTER-18C58,CHARACTER-18C59,CHARACTER-18C5A,CHARACTER-18C5B,CHARACTER-18C5C,CHARACTER-18C5D,
CHARACTER-18C5E,CHARACTER-18C5F,CHARACTER-18C60,CHARACTER-18C61,CHARACTER-18C62,CHARACTER-18C63,
CHARACTER-18C64,CHARACTER-18C65,CHARACTER-18C66,CHARACTER-18C67,CHARACTER-18C68,CHARACTER-18C69,
CHARACTER-18C6A,CHARACTER-18C6B,CHARACTER-18C6C,CHARACTER-18C6D,CHARACTER-18C6E,CHARACTER-18C6F,
CHARACTER-18C70,CHARACTER-18C71,CHARACTER-18C72,CHARACTER-18C73,CHARACTER-18C74,CHARACTER-18C75,
CHARACTER-18C76,CHARACTER-18C77,CHARACTER-18C78,CHARACTER-18C79,CHARACTER-18C7A,CHARACTER-18C7B,
CHARACTER-18C7C,CHARACTER-18C7D,CHARACTER-18C7E,CHARACTER-18C7F,CHARACTER-18C80,CHARACTER-18C81,
CHARACTER-18C82,CHARACTER-18C83,CHARACTER-18C84,CHARACTER-18C85,CHARACTER-18C86,CHARACTER-18C87,
CHARACTER-18C88,CHARACTER-18C89,CHARACTER-18C8A,CHARACTER-18C8B,CHARACTER-18C8C,CHARACTER-18C8D,
CHARACTER-18C8E,CHARACTER-18C8F,CHARACTER-18C90,CHARACTER-18C91,CHARACTER-18C92,CHARACTER-18C93,
CHARACTER-18C94,CHARACTER-18C95,CHARACTER-18C96,CHARACTER-18C97,CHARACTER-18C98,CHARACTER-18C99,
CHARACTER-18C9A,CHARACTER-18C9B,CHARACTER-18C9C,CHARACTER-18C9D,CHARACTER-18C9E,CHARACTER-18C9F,
CHARACTER-18CA0,CHARACTER-18CA1,CHARACTER-18CA2,CHARACTER-18CA3,CHARACTER-18CA4,CHARACTER-18CA5,
CHARACTER-18CA6,CHARACTER-18CA7,CHARACTER-18CA8,CHARACTER-18CA9,CHARACTER-18CAA,CHARACTER-18CAB,
CHARACTER-18CAC,CHARACTER-18CAD,CHARACTER-18CAE,CHARACTER-18CAF,CHARACTER-18CB0,CHARACTER-18CB1,
CHARACTER-18CB2,CHARACTER-18CB3,CHARACTER-18CB4,CHARACTER-18CB5,CHARACTER-18CB6,CHARACTER-18CB7,
CHARACTER-18CB8,CHARACTER-18CB9,CHARACTER-18CBA,CHARACTER-18CBB,CHARACTER-18CBC,CHARACTER-18CBD,
CHARACTER-18CBE,CHARACTER-18CBF,CHARACTER-18CC0,CHARACTER-18CC1,CHARACTER-18CC2,CHARACTER-18CC3,
CHARACTER-18CC4,CHARACTER-18CC5,CHARACTER-18CC6,CHARACTER-18CC7,CHARACTER-18CC8,CHARACTER-18CC9,
CHARACTER-18CCA,CHARACTER-18CCB,CHARACTER-18CCC,CHARACTER-18CCD,CHARACTER-18CCE,CHARACTER-18CCF,
CHARACTER-18CD0,CHARACTER-18CD1,CHARACTER-18CD2,CHARACTER-18CD3,CHARACTER-18CD4,CHARACTER-18CD5,
FILLER;KHMER CURRENCY SYMBOL=RIEL;KHMER DIGIT=EIGHT,FIVE,FOUR,NINE,ONE,SEVEN,SIX,THREE,TWO,ZERO;
KHMER INDEPENDENT VOWEL=LY,LYY,QAA,QAI,QAQ,QAU,QE,QI,QII,QU,QUK,QUU,QUUV,RY,RYY;
KHMER INDEPENDENT VOWEL QOO TYPE=ONE,TWO;KHMER LETTER=BA,CA,CHA,CHO,CO,DA,DO,HA,KA,KHA,KHO,KO,LA,
LO,MO,NGO,NNO,NO,NYO,PHA,PHO,PO,QA,RO,SA,SHA,SSO,TA,THA,THO,TO,TTHA,TTHO,VO,YO;KHMER SIGN=AHSDA,
ATTHACAN,AVAKRAHASANYA,BANTOC,BARIYOOSAN,BATHAMASAT,BEYYAL,COENG,KAKABAT,KHAN,KOOMUUT,MUUSIKATOAN,
NIKAHIT,REAHMUK,ROBAT,TOANDAKHIAT,TRIISAP,VIRIAM,YUUKALEAPINTU;KHMER SIGN CAMNUC PII=KUUH;
KHMER SIGN LEK=TOO;KHMER SIGN PHNAEK=MUAN;KHMER SIGN SAMYOK=SANNYA;KHMER SYMBOL=PATHAMASAT,
TUTEYASAT;KHMER SYMBOL BEI=KOET,ROC;KHMER SYMBOL BUON=KOET,ROC;KHMER SYMBOL DAP=KOET,ROC;
KHMER SYMBOL DAP-BEI=KOET,ROC;KHMER SYMBOL DAP-BUON=KOET,ROC;KHMER SYMBOL DAP-MUOY=KOET,ROC;
KHMER SYMBOL DAP-PII=KOET,ROC;KHMER SYMBOL DAP-PRAM=KOET,ROC;KHMER SYMBOL LEK ATTAK=BEI,BUON,MUOY,
PII,PRAM,PRAM-BEI,PRAM-BUON,PRAM-MUOY,PRAM-PII,SON;KHMER SYMBOL MUOY=KOET,ROC;
KHMER SYMBOL PII=KOET,ROC;KHMER SYMBOL PRAM=KOET,ROC;KHMER SYMBOL PRAM-BEI=KOET,ROC;
KHMER SYMBOL PRAM-BUON=KOET,ROC;KHMER SYMBOL PRAM-MUOY=KOET,ROC;KHMER SYMBOL PRAM-PII=KOET,ROC;
KHMER VOWEL INHERENT=AA,AQ;KHMER VOWEL SIGN=AA,AE,AI,AU,E,I,IE,II,OE,OO,U,UA,UU,Y,YA,YY;
KHOJKI=DANDA;KHOJKI ABBREVIATION=SIGN;KHOJKI DOUBLE=DANDA;KHOJKI DOUBLE SECTION=MARK;
KHOJKI LETTER=A,AA,AI,AU,BA,BBA,BHA,CA,CHA,DA,DDA,DDDA,DDHA,DHA,E,GA,GGA,GHA,HA,I,JA,JJA,KA,KHA,LA,
LLA,MA,NA,NGA,NNA,NYA,O,PA,PHA,RA,SA,TA,THA,TTA,TTHA,U,VA,YA;KHOJKI SECTION=MARK;
KHOJKI SIGN=ANUSVARA,NUKTA,SHADDA,SUKUN,VIRAMA;KHOJKI VOWEL SIGN=AA,AI,AU,E,I,II,O,U;
KHOJKI WORD=SEPARATOR;KHUDAWADI DIGIT=EIGHT,FIVE,FOUR,NINE,ONE,SEVEN,SIX,THREE,TWO,ZERO;
KHUDAWADI LETTER=A,AA,AI,AU,BA,BBA,BHA,CA,CHA,DA,DDA,DDDA,DDHA,DHA,E,GA,GGA,GHA,HA,I,II,JA,JHA,JJA,
KA,KHA,LA,MA,NA,NGA,NNA,NYA,O,PA,PHA,RA,RRA,SA,SHA,TA,THA,TTA,TTHA,U,UU,VA,YA;
KHUDAWADI SIGN=ANUSVARA,NUKTA,VIRAMA;KHUDAWADI VOWEL SIGN=AA,AI,AU,E,I,II,O,U,UU;KIP=SIGN;
KISS=MARK;KISSING=FACE;KISSING CAT FACE WITH CLOSED=EYES;KISSING FACE WITH CLOSED=EYES;
KISSING FACE WITH SMILING=EYES;KNEELING=PERSON;KOREAN STANDARD=SYMBOL;L B BAR=SYMBOL;LAB=COAT;
LACROSSE STICK AND=BALL;LADY=BEETLE;LANGUAGE=TAG;LAO=ELLIPSIS,NIGGAHITA;LAO CANCELLATION=MARK;
LAO DIGIT=EIGHT,FIVE,FOUR,NINE,ONE,SEVEN,SIX,THREE,TWO,ZERO;LAO HO=MO,NO;LAO KO=LA;LAO LETTER=BO,
CO,DO,KO,LO,MO,NGO,NO,NYO,O,PO,RO,TO,WO,YO;LAO LETTER FO=FAY,FON,SUNG,TAM;LAO LETTER HO=SUNG,TAM;
LAO LETTER KHMU=GO,NYO;LAO LETTER KHO=SUNG,TAM;LAO LETTER LO=LING,LOOT;LAO LETTER PALI=BHA,CHA,DDA,
DDHA,DHA,GHA,JHA,LLA,NNA,NYA,TTA,TTHA;LAO LETTER PHO=SUNG,TAM;LAO LETTER SANSKRIT=SHA,SSA;
LAO LETTER SO=SUNG,TAM;LAO LETTER THO=SUNG,TAM;LAO SEMIVOWEL SIGN=LO,NYO;LAO SIGN PALI=VIRAMA;
LAO TONE MAI=CATAWA,EK,THO,TI;LAO VOWEL SIGN=A,AA,AI,AM,AY,E,EI,I,II,O,U,UU,Y,YY;
LAO VOWEL SIGN MAI=KAN,KON;LARGE=CIRCLE;LARGE BLUE=CIRCLE,DIAMOND,SQUARE;LARGE BROWN=CIRCLE,SQUARE;
LARGE DOWN=TACK;LARGE GREEN=CIRCLE,SQUARE;LARGE LEFT TRIANGLE=OPERATOR;
LARGE ONE DOT OVER TWO DOTS=PUNCTUATION;LARGE ONE RING OVER TWO RINGS=PUNCTUATION;
LARGE ORANGE=CIRCLE,DIAMOND,SQUARE;LARGE PURPLE=CIRCLE,SQUARE;LARGE RED=CIRCLE,SQUARE;
LARGE TRIPLE VERTICAL BAR=OPERATOR;LARGE TWO DOTS OVER ONE DOT=PUNCTUATION;
LARGE TWO RINGS OVER ONE RING=PUNCTUATION;LARGE UP=TACK;LARGE YELLOW=CIRCLE,SQUARE;LARGER=THAN;
LARGER THAN OR EQUAL=TO;LARI=SIGN;LAST QUARTER=MOON;LAST QUARTER MOON=SYMBOL;
LAST QUARTER MOON WITH=FACE;LATIN=CROSS;LATIN CAPITAL LETTER=A,AA,AE,ALPHA,AO,AU,AV,AY,B,BETA,C,
CHI,CON,CUATRILLO,D,DZ,E,ENG,ESH,ET,ETH,EZH,F,G,GAMMA,GHA,H,HENG,HWAIR,I,IOTA,IS,J,K,L,LJ,M,N,NJ,O,
OI,OMEGA,OO,OU,P,Q,R,S,SALTILLO,SCHWA,T,THORN,TRESILLO,TZ,U,UPSILON,V,VEND,VY,W,WYNN,X,Y,YOGH,Z;
LATIN CAPITAL LETTER A WITH=ACUTE,BREVE,CARON,CIRCUMFLEX,DIAERESIS,GRAVE,MACRON,OGONEK,STROKE,
TILDE;LATIN CAPITAL LETTER A WITH BREVE AND=ACUTE,GRAVE,TILDE;
LATIN CAPITAL LETTER A WITH BREVE AND DOT=BELOW;LATIN CAPITAL LETTER A WITH BREVE AND HOOK=ABOVE;
LATIN CAPITAL LETTER A WITH CIRCUMFLEX AND=ACUTE,GRAVE,TILDE;
LATIN CAPITAL LETTER A WITH CIRCUMFLEX AND DOT=BELOW;
LATIN CAPITAL LETTER A WITH CIRCUMFLEX AND HOOK=ABOVE;
LATIN CAPITAL LETTER A WITH DIAERESIS AND=MACRON;LATIN CAPITAL LETTER A WITH DOT=ABOVE,BELOW;
LATIN CAPITAL LETTER A WITH DOT ABOVE AND=MACRON;LATIN CAPITAL LETTER A WITH DOUBLE=GRAVE;
LATIN CAPITAL LETTER A WITH HOOK=ABOVE;LATIN CAPITAL LETTER A WITH INVERTED=BREVE;
LATIN CAPITAL LETTER A WITH RING=ABOVE,BELOW;LATIN CAPITAL LETTER A WITH RING ABOVE AND=ACUTE;
LATIN CAPITAL LETTER AE WITH=ACUTE,MACRON;LATIN CAPITAL LETTER AFRICAN=D;
LATIN CAPITAL LETTER ANGLICANA=W;LATIN CAPITAL LETTER AV WITH HORIZONTAL=BAR;
LATIN CAPITAL LETTER B WITH=FLOURISH,HOOK,STROKE,TOPBAR;LATIN CAPITAL LETTER B WITH DOT=ABOVE,
BELOW;LATIN CAPITAL LETTER B WITH LINE=BELOW;LATIN CAPITAL LETTER BROKEN=L;
LATIN CAPITAL LETTER C WITH=ACUTE,BAR,CARON,CEDILLA,CIRCUMFLEX,HOOK,STROKE;
LATIN CAPITAL LETTER C WITH CEDILLA AND=ACUTE;LATIN CAPITAL LETTER C WITH DOT=ABOVE;
LATIN CAPITAL LETTER C WITH PALATAL=HOOK;LATIN CAPITAL LETTER CLOSED INSULAR=G;
LATIN CAPITAL LETTER CUATRILLO WITH=COMMA;LATIN CAPITAL LETTER D WITH=CARON,CEDILLA,HOOK,STROKE,
TOPBAR;LATIN CAPITAL LETTER D WITH CIRCUMFLEX=BELOW;LATIN CAPITAL LETTER D WITH DOT=ABOVE,BELOW;
LATIN CAPITAL LETTER D WITH LINE=BELOW;LATIN CAPITAL LETTER D WITH SHORT STROKE=OVERLAY;
LATIN CAPITAL LETTER D WITH SMALL LETTER=Z;LATIN CAPITAL LETTER D WITH SMALL LETTER Z WITH=CARON;
LATIN CAPITAL LETTER DZ WITH=CARON;LATIN CAPITAL LETTER E WITH=ACUTE,BREVE,CARON,CEDILLA,
CIRCUMFLEX,DIAERESIS,GRAVE,MACRON,OGONEK,STROKE,TILDE;
LATIN CAPITAL LETTER E WITH CEDILLA AND=BREVE;LATIN CAPITAL LETTER E WITH CIRCUMFLEX=BELOW;
LATIN CAPITAL LETTER E WITH CIRCUMFLEX AND=ACUTE,GRAVE,TILDE;
LATIN CAPITAL LETTER E WITH CIRCUMFLEX AND DOT=BELOW;
LATIN CAPITAL LETTER E WITH CIRCUMFLEX AND HOOK=ABOVE;LATIN CAPITAL LETTER E WITH DOT=ABOVE,BELOW;
LATIN CAPITAL LETTER E WITH DOUBLE=GRAVE;LATIN CAPITAL LETTER E WITH HOOK=ABOVE;
LATIN CAPITAL LETTER E WITH INVERTED=BREVE;LATIN CAPITAL LETTER E WITH MACRON AND=ACUTE,GRAVE;
LATIN CAPITAL LETTER E WITH TILDE=BELOW;LATIN CAPITAL LETTER EGYPTOLOGICAL=AIN,ALEF;
LATIN CAPITAL LETTER EZH=REVERSED;LATIN CAPITAL LETTER EZH WITH=CARON;
LATIN CAPITAL LETTER F WITH=HOOK,STROKE;LATIN CAPITAL LETTER F WITH DOT=ABOVE;
LATIN CAPITAL LETTER G WITH=ACUTE,BREVE,CARON,CEDILLA,CIRCUMFLEX,HOOK,MACRON,STROKE;
LATIN CAPITAL LETTER G WITH DOT=ABOVE;LATIN CAPITAL LETTER G WITH OBLIQUE=STROKE;
LATIN CAPITAL LETTER GLOTTAL=A,I,STOP,U;LATIN CAPITAL LETTER H WITH=CARON,CEDILLA,CIRCUMFLEX,
DESCENDER,DIAERESIS,HOOK,STROKE;LATIN CAPITAL LETTER H WITH BREVE=BELOW;
LATIN CAPITAL LETTER H WITH DOT=ABOVE,BELOW;LATIN CAPITAL LETTER HALF=H;
LATIN CAPITAL LETTER I WITH=ACUTE,BREVE,CARON,CIRCUMFLEX,DIAERESIS,GRAVE,MACRON,OGONEK,STROKE,
TILDE;LATIN CAPITAL LETTER I WITH DIAERESIS AND=ACUTE;LATIN CAPITAL LETTER I WITH DOT=ABOVE,BELOW;
LATIN CAPITAL LETTER I WITH DOUBLE=GRAVE;LATIN CAPITAL LETTER I WITH HOOK=ABOVE;
LATIN CAPITAL LETTER I WITH INVERTED=BREVE;LATIN CAPITAL LETTER I WITH TILDE=BELOW;
LATIN CAPITAL LETTER INSULAR=D,F,G,R,S,T;LATIN CAPITAL LETTER J WITH=CIRCUMFLEX,CROSSED-TAIL,
STROKE;LATIN CAPITAL LETTER K WITH=ACUTE,CARON,CEDILLA,DESCENDER,HOOK,STROKE;
LATIN CAPITAL LETTER K WITH DIAGONAL=STROKE;LATIN CAPITAL LETTER K WITH DOT=BELOW;
LATIN CAPITAL LETTER K WITH LINE=BELOW;LATIN CAPITAL LETTER K WITH OBLIQUE=STROKE;
LATIN CAPITAL LETTER K WITH STROKE AND DIAGONAL=STROKE;LATIN CAPITAL LETTER L WITH=ACUTE,BAR,BELT,
CARON,CEDILLA,STROKE;LATIN CAPITAL LETTER L WITH CIRCUMFLEX=BELOW;
LATIN CAPITAL LETTER L WITH DOT=BELOW;LATIN CAPITAL LETTER L WITH DOT BELOW AND=MACRON;
LATIN CAPITAL LETTER L WITH DOUBLE=BAR;LATIN CAPITAL LETTER L WITH HIGH=STROKE;
LATIN CAPITAL LETTER L WITH LINE=BELOW;LATIN CAPITAL LETTER L WITH MIDDLE=DOT,TILDE;
LATIN CAPITAL LETTER L WITH SMALL LETTER=J;LATIN CAPITAL LETTER M WITH=ACUTE,HOOK;
LATIN CAPITAL LETTER M WITH DOT=ABOVE,BELOW;LATIN CAPITAL LETTER MIDDLE SCOTS=S;
LATIN CAPITAL LETTER MIDDLE-WELSH=LL,V;LATIN CAPITAL LETTER N WITH=ACUTE,CARON,CEDILLA,DESCENDER,
GRAVE,TILDE;LATIN CAPITAL LETTER N WITH CIRCUMFLEX=BELOW;LATIN CAPITAL LETTER N WITH DOT=ABOVE,
BELOW;LATIN CAPITAL LETTER N WITH LEFT=HOOK;LATIN CAPITAL LETTER N WITH LINE=BELOW;
LATIN CAPITAL LETTER N WITH LONG RIGHT=LEG;LATIN CAPITAL LETTER N WITH OBLIQUE=STROKE;
LATIN CAPITAL LETTER N WITH SMALL LETTER=J;LATIN CAPITAL LETTER O WITH=ACUTE,BREVE,CARON,
CIRCUMFLEX,DIAERESIS,GRAVE,HORN,LOOP,MACRON,OGONEK,STROKE,TILDE;
LATIN CAPITAL LETTER O WITH CIRCUMFLEX AND=ACUTE,GRAVE,TILDE;
LATIN CAPITAL LETTER O WITH CIRCUMFLEX AND DOT=BELOW;
LATIN CAPITAL LETTER O WITH CIRCUMFLEX AND HOOK=ABOVE;
LATIN CAPITAL LETTER O WITH DIAERESIS AND=MACRON;LATIN CAPITAL LETTER O WITH DOT=ABOVE,BELOW;
LATIN CAPITAL LETTER O WITH DOT ABOVE AND=MACRON;LATIN CAPITAL LETTER O WITH DOUBLE=ACUTE,GRAVE;
LATIN CAPITAL LETTER O WITH HOOK=ABOVE;LATIN CAPITAL LETTER O WITH HORN AND=ACUTE,GRAVE,TILDE;
LATIN CAPITAL LETTER O WITH HORN AND DOT=BELOW;LATIN CAPITAL LETTER O WITH HORN AND HOOK=ABOVE;
LATIN CAPITAL LETTER O WITH INVERTED=BREVE;LATIN CAPITAL LETTER O WITH LONG STROKE=OVERLAY;
LATIN CAPITAL LETTER O WITH MACRON AND=ACUTE,GRAVE;LATIN CAPITAL LETTER O WITH MIDDLE=TILDE;
LATIN CAPITAL LETTER O WITH OGONEK AND=MACRON;LATIN CAPITAL LETTER O WITH STROKE AND=ACUTE;
LATIN CAPITAL LETTER O WITH TILDE AND=ACUTE,DIAERESIS,MACRON;LATIN CAPITAL LETTER OLD POLISH=O;
LATIN CAPITAL LETTER OPEN=E,O;LATIN CAPITAL LETTER P WITH=ACUTE,FLOURISH,HOOK,STROKE;
LATIN CAPITAL LETTER P WITH DOT=ABOVE;LATIN CAPITAL LETTER P WITH SQUIRREL=TAIL;
LATIN CAPITAL LETTER P WITH STROKE THROUGH=DESCENDER;LATIN CAPITAL LETTER Q WITH DIAGONAL=STROKE;
LATIN CAPITAL LETTER Q WITH STROKE THROUGH=DESCENDER;LATIN CAPITAL LETTER R=ROTUNDA;
LATIN CAPITAL LETTER R WITH=ACUTE,CARON,CEDILLA,STROKE,TAIL;LATIN CAPITAL LETTER R WITH DOT=ABOVE,
BELOW;LATIN CAPITAL LETTER R WITH DOT BELOW AND=MACRON;LATIN CAPITAL LETTER R WITH DOUBLE=GRAVE;
LATIN CAPITAL LETTER R WITH INVERTED=BREVE;LATIN CAPITAL LETTER R WITH LINE=BELOW;
LATIN CAPITAL LETTER R WITH OBLIQUE=STROKE;LATIN CAPITAL LETTER REVERSED=E;
LATIN CAPITAL LETTER REVERSED C WITH=DOT;LATIN CAPITAL LETTER REVERSED HALF=H;
LATIN CAPITAL LETTER REVERSED OPEN=E;LATIN CAPITAL LETTER RUM=ROTUNDA;
LATIN CAPITAL LETTER S WITH=ACUTE,CARON,CEDILLA,CIRCUMFLEX,HOOK;
LATIN CAPITAL LETTER S WITH ACUTE AND DOT=ABOVE;LATIN CAPITAL LETTER S WITH CARON AND DOT=ABOVE;
LATIN CAPITAL LETTER S WITH COMMA=BELOW;LATIN CAPITAL LETTER S WITH DOT=ABOVE,BELOW;
LATIN CAPITAL LETTER S WITH DOT BELOW AND DOT=ABOVE;LATIN CAPITAL LETTER S WITH OBLIQUE=STROKE;
LATIN CAPITAL LETTER S WITH SHORT STROKE=OVERLAY;LATIN CAPITAL LETTER S WITH SWASH=TAIL;
LATIN CAPITAL LETTER SCRIPT=G;LATIN CAPITAL LETTER SHARP=S;LATIN CAPITAL LETTER SIGMOID=S;
LATIN CAPITAL LETTER SMALL CAPITAL=I;LATIN CAPITAL LETTER SMALL Q WITH HOOK=TAIL;
LATIN CAPITAL LETTER T WITH=CARON,CEDILLA,HOOK,STROKE;LATIN CAPITAL LETTER T WITH CIRCUMFLEX=BELOW;
LATIN CAPITAL LETTER T WITH COMMA=BELOW;LATIN CAPITAL LETTER T WITH DIAGONAL=STROKE;
LATIN CAPITAL LETTER T WITH DOT=ABOVE,BELOW;LATIN CAPITAL LETTER T WITH LINE=BELOW;
LATIN CAPITAL LETTER T WITH RETROFLEX=HOOK;LATIN CAPITAL LETTER THORN WITH=STROKE;
LATIN CAPITAL LETTER THORN WITH STROKE THROUGH=DESCENDER;LATIN CAPITAL LETTER TONE=FIVE,SIX,TWO;
LATIN CAPITAL LETTER TURNED=A,ALPHA,H,K,L,M,T,V;LATIN CAPITAL LETTER TURNED INSULAR=G;
LATIN CAPITAL LETTER U=BAR;LATIN CAPITAL LETTER U WITH=ACUTE,BREVE,CARON,CIRCUMFLEX,DIAERESIS,
GRAVE,HORN,MACRON,OGONEK,STROKE,TILDE;LATIN CAPITAL LETTER U WITH CIRCUMFLEX=BELOW;
LATIN CAPITAL LETTER U WITH DIAERESIS=BELOW;LATIN CAPITAL LETTER U WITH DIAERESIS AND=ACUTE,CARON,
GRAVE,MACRON;LATIN CAPITAL LETTER U WITH DOT=BELOW;LATIN CAPITAL LETTER U WITH DOUBLE=ACUTE,GRAVE;
LATIN CAPITAL LETTER U WITH HOOK=ABOVE;LATIN CAPITAL LETTER U WITH HORN AND=ACUTE,GRAVE,TILDE;
LATIN CAPITAL LETTER U WITH HORN AND DOT=BELOW;LATIN CAPITAL LETTER U WITH HORN AND HOOK=ABOVE;
LATIN CAPITAL LETTER U WITH INVERTED=BREVE;LATIN CAPITAL LETTER U WITH MACRON AND=DIAERESIS;
LATIN CAPITAL LETTER U WITH RING=ABOVE;LATIN CAPITAL LETTER U WITH TILDE=BELOW;
LATIN CAPITAL LETTER U WITH TILDE AND=ACUTE;LATIN CAPITAL LETTER V WITH=HOOK,TILDE;
LATIN CAPITAL LETTER V WITH DIAGONAL=STROKE;LATIN CAPITAL LETTER V WITH DOT=BELOW;
LATIN CAPITAL LETTER VISIGOTHIC=Z;LATIN CAPITAL LETTER VOLAPUK=AE,OE,UE;
LATIN CAPITAL LETTER W WITH=ACUTE,CIRCUMFLEX,DIAERESIS,GRAVE,HOOK;
LATIN CAPITAL LETTER W WITH DOT=ABOVE,BELOW;LATIN CAPITAL LETTER X WITH=DIAERESIS;
LATIN CAPITAL LETTER X WITH DOT=ABOVE;LATIN CAPITAL LETTER Y WITH=ACUTE,CIRCUMFLEX,DIAERESIS,GRAVE,
HOOK,LOOP,MACRON,STROKE,TILDE;LATIN CAPITAL LETTER Y WITH DOT=ABOVE,BELOW;
LATIN CAPITAL LETTER Y WITH HOOK=ABOVE;LATIN CAPITAL LETTER Z WITH=ACUTE,CARON,CIRCUMFLEX,
DESCENDER,HOOK,STROKE;LATIN CAPITAL LETTER Z WITH DOT=ABOVE,BELOW;
LATIN CAPITAL LETTER Z WITH LINE=BELOW;LATIN CAPITAL LETTER Z WITH PALATAL=HOOK;
LATIN CAPITAL LETTER Z WITH SWASH=TAIL;LATIN CAPITAL LIGATURE=IJ,OE;
LATIN EPIGRAPHIC LETTER ARCHAIC=M;LATIN EPIGRAPHIC LETTER I=LONGA;
LATIN EPIGRAPHIC LETTER INVERTED=M;LATIN EPIGRAPHIC LETTER REVERSED=F,P;
LATIN EPIGRAPHIC LETTER SIDEWAYS=I;LATIN LETTER=AIN,WYNN,YR;LATIN LETTER ALVEOLAR=CLICK;
LATIN LETTER BIDENTAL=PERCUSSIVE;LATIN LETTER BILABIAL=CLICK,PERCUSSIVE;LATIN LETTER DENTAL=CLICK;
LATIN LETTER GLOTTAL=STOP;LATIN LETTER GLOTTAL STOP WITH=STROKE;LATIN LETTER INVERTED GLOTTAL=STOP;
LATIN LETTER INVERTED GLOTTAL STOP WITH=CURL,STROKE;LATIN LETTER LATERAL=CLICK;
LATIN LETTER PHARYNGEAL VOICED=FRICATIVE;LATIN LETTER RETROFLEX=CLICK;
LATIN LETTER RETROFLEX CLICK WITH RETROFLEX=HOOK;LATIN LETTER REVERSED ESH=LOOP;
LATIN LETTER REVERSED GLOTTAL STOP WITH=STROKE;LATIN LETTER SINOLOGICAL=DOT;
LATIN LETTER SMALL CAPITAL=A,AE,B,C,D,E,ETH,EZH,F,G,H,I,J,K,L,M,N,O,OE,OU,P,Q,R,RUM,S,T,U,V,W,Y,Z;
LATIN LETTER SMALL CAPITAL BARRED=B;LATIN LETTER SMALL CAPITAL G WITH=HOOK;
LATIN LETTER SMALL CAPITAL INVERTED=R;LATIN LETTER SMALL CAPITAL L WITH=BELT,STROKE;
LATIN LETTER SMALL CAPITAL OPEN=O;LATIN LETTER SMALL CAPITAL R WITH RIGHT=LEG;
LATIN LETTER SMALL CAPITAL REVERSED=N,R;LATIN LETTER SMALL CAPITAL TURNED=E,G,K,M,R;
LATIN LETTER STRETCHED=C;LATIN LETTER STRETCHED C WITH=CURL;LATIN LETTER TWO WITH=STROKE;
LATIN LETTER VOICED LARYNGEAL=SPIRANT;LATIN SMALL CAPITAL LETTER I WITH=STROKE;
LATIN SMALL CAPITAL LETTER U WITH=STROKE;LATIN SMALL LETTER=A,AA,AE,ALPHA,AO,AU,AV,AY,B,BETA,C,CHI,
CON,CUATRILLO,D,DELTA,DUM,DZ,E,ENG,ESH,ET,ETH,EZH,F,G,GAMMA,GHA,H,HENG,HV,I,IOTA,IS,J,K,KRA,L,LEZH,
LJ,LUM,M,MUM,N,NJ,NUM,O,OI,OMEGA,OO,OU,P,PHI,Q,R,RUM,S,SALTILLO,SCHWA,T,THORN,TRESILLO,TUM,TZ,U,UE,
UI,UM,UO,UPSILON,V,VEND,VY,W,X,Y,YOGH,Z;LATIN SMALL LETTER A=REVERSED-SCHWA;
LATIN SMALL LETTER A WITH=ACUTE,BREVE,CARON,CIRCUMFLEX,DIAERESIS,GRAVE,MACRON,OGONEK,STROKE,TILDE;
LATIN SMALL LETTER A WITH BREVE AND=ACUTE,GRAVE,TILDE;
LATIN SMALL LETTER A WITH BREVE AND DOT=BELOW;LATIN SMALL LETTER A WITH BREVE AND HOOK=ABOVE;
LATIN SMALL LETTER A WITH CIRCUMFLEX AND=ACUTE,GRAVE,TILDE;
LATIN SMALL LETTER A WITH CIRCUMFLEX AND DOT=BELOW;
LATIN SMALL LETTER A WITH CIRCUMFLEX AND HOOK=ABOVE;LATIN SMALL LETTER A WITH DIAERESIS AND=MACRON;
LATIN SMALL LETTER A WITH DOT=ABOVE,BELOW;LATIN SMALL LETTER A WITH DOT ABOVE AND=MACRON;
LATIN SMALL LETTER A WITH DOUBLE=GRAVE;LATIN SMALL LETTER A WITH HOOK=ABOVE;
LATIN SMALL LETTER A WITH INVERTED=BREVE;LATIN SMALL LETTER A WITH RETROFLEX=HOOK;
LATIN SMALL LETTER A WITH RIGHT HALF=RING;LATIN SMALL LETTER A WITH RING=ABOVE,BELOW;
LATIN SMALL LETTER A WITH RING ABOVE AND=ACUTE;LATIN SMALL LETTER AE WITH=ACUTE,MACRON;
LATIN SMALL LETTER ALPHA WITH RETROFLEX=HOOK;LATIN SMALL LETTER ANGLICANA=W;
LATIN SMALL LETTER AV WITH HORIZONTAL=BAR;LATIN SMALL LETTER B WITH=FLOURISH,HOOK,STROKE,TOPBAR;
LATIN SMALL LETTER B WITH DOT=ABOVE,BELOW;LATIN SMALL LETTER B WITH LINE=BELOW;
LATIN SMALL LETTER B WITH MIDDLE=TILDE;LATIN SMALL LETTER B WITH PALATAL=HOOK;
LATIN SMALL LETTER BARRED=ALPHA,E,O;LATIN SMALL LETTER BASELINE=ESH;
LATIN SMALL LETTER BLACKLETTER=E,O;LATIN SMALL LETTER BLACKLETTER O WITH=STROKE;
LATIN SMALL LETTER BOTTOM HALF=O;LATIN SMALL LETTER BROKEN=L;LATIN SMALL LETTER C WITH=ACUTE,BAR,
CARON,CEDILLA,CIRCUMFLEX,CURL,HOOK,STROKE;LATIN SMALL LETTER C WITH CEDILLA AND=ACUTE;
LATIN SMALL LETTER C WITH DOT=ABOVE;LATIN SMALL LETTER C WITH PALATAL=HOOK;
LATIN SMALL LETTER C WITH RETROFLEX=HOOK;LATIN SMALL LETTER CHI WITH LOW LEFT=SERIF;
LATIN SMALL LETTER CHI WITH LOW RIGHT=RING;LATIN SMALL LETTER CLOSED=OMEGA;
LATIN SMALL LETTER CLOSED INSULAR=G;LATIN SMALL LETTER CLOSED OPEN=E;
LATIN SMALL LETTER CLOSED REVERSED OPEN=E;LATIN SMALL LETTER CUATRILLO WITH=COMMA;
LATIN SMALL LETTER D WITH=CARON,CEDILLA,CURL,HOOK,STROKE,TAIL,TOPBAR;
LATIN SMALL LETTER D WITH CIRCUMFLEX=BELOW;LATIN SMALL LETTER D WITH DOT=ABOVE,BELOW;
LATIN SMALL LETTER D WITH HOOK AND=TAIL;LATIN SMALL LETTER D WITH LINE=BELOW;
LATIN SMALL LETTER D WITH MIDDLE=TILDE;LATIN SMALL LETTER D WITH PALATAL=HOOK;
LATIN SMALL LETTER D WITH SHORT STROKE=OVERLAY;LATIN SMALL LETTER DB=DIGRAPH;
LATIN SMALL LETTER DEZH=DIGRAPH;LATIN SMALL LETTER DEZH DIGRAPH WITH PALATAL=HOOK;
LATIN SMALL LETTER DEZH DIGRAPH WITH RETROFLEX=HOOK;LATIN SMALL LETTER DOTLESS=I,J;
LATIN SMALL LETTER DOTLESS J WITH=STROKE;LATIN SMALL LETTER DOTLESS J WITH STROKE AND=HOOK;
LATIN SMALL LETTER DOUBLE=R,THORN,WYNN;LATIN SMALL LETTER DOUBLE R WITH=CROSSED-TAIL;
LATIN SMALL LETTER DZ=DIGRAPH;LATIN SMALL LETTER DZ DIGRAPH WITH=CURL;
LATIN SMALL LETTER DZ DIGRAPH WITH RETROFLEX=HOOK;LATIN SMALL LETTER DZ WITH=CARON;
LATIN SMALL LETTER E WITH=ACUTE,BREVE,CARON,CEDILLA,CIRCUMFLEX,DIAERESIS,FLOURISH,GRAVE,MACRON,
NOTCH,OGONEK,STROKE,TILDE;LATIN SMALL LETTER E WITH CEDILLA AND=BREVE;
LATIN SMALL LETTER E WITH CIRCUMFLEX=BELOW;LATIN SMALL LETTER E WITH CIRCUMFLEX AND=ACUTE,GRAVE,
TILDE;LATIN SMALL LETTER E WITH CIRCUMFLEX AND DOT=BELOW;
LATIN SMALL LETTER E WITH CIRCUMFLEX AND HOOK=ABOVE;LATIN SMALL LETTER E WITH DOT=ABOVE,BELOW;
LATIN SMALL LETTER E WITH DOUBLE=GRAVE;LATIN SMALL LETTER E WITH HOOK=ABOVE;
LATIN SMALL LETTER E WITH INVERTED=BREVE;LATIN SMALL LETTER E WITH MACRON AND=ACUTE,GRAVE;
LATIN SMALL LETTER E WITH RETROFLEX=HOOK;LATIN SMALL LETTER E WITH TILDE=BELOW;
LATIN SMALL LETTER EGYPTOLOGICAL=AIN,ALEF;LATIN SMALL LETTER ENG WITH=CROSSED-TAIL;
LATIN SMALL LETTER ENG WITH PALATAL=HOOK;LATIN SMALL LETTER ESH WITH=CURL;
LATIN SMALL LETTER ESH WITH DOUBLE=BAR;LATIN SMALL LETTER ESH WITH DOUBLE BAR AND=CURL;
LATIN SMALL LETTER ESH WITH PALATAL=HOOK;LATIN SMALL LETTER ESH WITH RETROFLEX=HOOK;
LATIN SMALL LETTER EZH=REVERSED;LATIN SMALL LETTER EZH WITH=CARON,CURL,TAIL;
LATIN SMALL LETTER EZH WITH PALATAL=HOOK;LATIN SMALL LETTER EZH WITH RETROFLEX=HOOK;
LATIN SMALL LETTER F WITH=HOOK,STROKE;LATIN SMALL LETTER F WITH DOT=ABOVE;
LATIN SMALL LETTER F WITH MIDDLE=TILDE;LATIN SMALL LETTER F WITH PALATAL=HOOK;
LATIN SMALL LETTER FENG=DIGRAPH;LATIN SMALL LETTER FENG DIGRAPH WITH=TRILL;
LATIN SMALL LETTER G WITH=ACUTE,BREVE,CARON,CEDILLA,CIRCUMFLEX,HOOK,MACRON,STROKE;
LATIN SMALL LETTER G WITH DOT=ABOVE;LATIN SMALL LETTER G WITH OBLIQUE=STROKE;
LATIN SMALL LETTER G WITH PALATAL=HOOK;LATIN SMALL LETTER GLOTTAL=A,I,STOP,U;
LATIN SMALL LETTER H WITH=CARON,CEDILLA,CIRCUMFLEX,DESCENDER,DIAERESIS,HOOK,STROKE;
LATIN SMALL LETTER H WITH BREVE=BELOW;LATIN SMALL LETTER H WITH DOT=ABOVE,BELOW;
LATIN SMALL LETTER H WITH LINE=BELOW;LATIN SMALL LETTER H WITH PALATAL=HOOK;
LATIN SMALL LETTER HALF=H;LATIN SMALL LETTER HENG WITH=HOOK;LATIN SMALL LETTER I WITH=ACUTE,BREVE,
CARON,CIRCUMFLEX,DIAERESIS,GRAVE,MACRON,OGONEK,STROKE,TILDE;
LATIN SMALL LETTER I WITH DIAERESIS AND=ACUTE;LATIN SMALL LETTER I WITH DOT=BELOW;
LATIN SMALL LETTER I WITH DOUBLE=GRAVE;LATIN SMALL LETTER I WITH HOOK=ABOVE;
LATIN SMALL LETTER I WITH INVERTED=BREVE;LATIN SMALL LETTER I WITH RETROFLEX=HOOK;
LATIN SMALL LETTER I WITH STROKE AND RETROFLEX=HOOK;LATIN SMALL LETTER I WITH TILDE=BELOW;
LATIN SMALL LETTER INSULAR=D,F,G,R,S,T;LATIN SMALL LETTER INVERTED=ALPHA,OE;
LATIN SMALL LETTER IOTA WITH=STROKE;LATIN SMALL LETTER IOTIFIED=E;LATIN SMALL LETTER J WITH=CARON,
CIRCUMFLEX,CROSSED-TAIL,STROKE;LATIN SMALL LETTER K WITH=ACUTE,CARON,CEDILLA,DESCENDER,HOOK,STROKE;
LATIN SMALL LETTER K WITH DIAGONAL=STROKE;LATIN SMALL LETTER K WITH DOT=BELOW;
LATIN SMALL LETTER K WITH LINE=BELOW;LATIN SMALL LETTER K WITH OBLIQUE=STROKE;
LATIN SMALL LETTER K WITH PALATAL=HOOK;LATIN SMALL LETTER K WITH STROKE AND DIAGONAL=STROKE;
LATIN SMALL LETTER L WITH=ACUTE,BAR,BELT,CARON,CEDILLA,CURL,FISHHOOK,STROKE;
LATIN SMALL LETTER L WITH BELT AND PALATAL=HOOK;LATIN SMALL LETTER L WITH CIRCUMFLEX=BELOW;
LATIN SMALL LETTER L WITH DOT=BELOW;LATIN SMALL LETTER L WITH DOT BELOW AND=MACRON;
LATIN SMALL LETTER L WITH DOUBLE=BAR;LATIN SMALL LETTER L WITH DOUBLE MIDDLE=TILDE;
LATIN SMALL LETTER L WITH HIGH=STROKE;LATIN SMALL LETTER L WITH INVERTED LAZY=S;
LATIN SMALL LETTER L WITH LINE=BELOW;LATIN SMALL LETTER L WITH MIDDLE=DOT,RING,TILDE;
LATIN SMALL LETTER L WITH PALATAL=HOOK;LATIN SMALL LETTER L WITH RETROFLEX=HOOK;
LATIN SMALL LETTER L WITH RETROFLEX HOOK AND=BELT;LATIN SMALL LETTER LAMBDA WITH=STROKE;
LATIN SMALL LETTER LENIS=F;LATIN SMALL LETTER LEZH WITH RETROFLEX=HOOK;LATIN SMALL LETTER LONG=S;
LATIN SMALL LETTER LONG S WITH DIAGONAL=STROKE;LATIN SMALL LETTER LONG S WITH DOT=ABOVE;
LATIN SMALL LETTER LONG S WITH HIGH=STROKE;LATIN SMALL LETTER LS=DIGRAPH;
LATIN SMALL LETTER LZ=DIGRAPH;LATIN SMALL LETTER M WITH=ACUTE,CROSSED-TAIL,HOOK;
LATIN SMALL LETTER M WITH DOT=ABOVE,BELOW;LATIN SMALL LETTER M WITH MIDDLE=TILDE;
LATIN SMALL LETTER M WITH PALATAL=HOOK;LATIN SMALL LETTER MIDDLE SCOTS=S;
LATIN SMALL LETTER MIDDLE-WELSH=LL,V;LATIN SMALL LETTER N PRECEDED BY=APOSTROPHE;
LATIN SMALL LETTER N WITH=ACUTE,CARON,CEDILLA,CROSSED-TAIL,CURL,DESCENDER,GRAVE,TILDE;
LATIN SMALL LETTER N WITH CIRCUMFLEX=BELOW;LATIN SMALL LETTER N WITH DOT=ABOVE,BELOW;
LATIN SMALL LETTER N WITH LEFT=HOOK;LATIN SMALL LETTER N WITH LINE=BELOW;
LATIN SMALL LETTER N WITH LONG RIGHT=LEG;LATIN SMALL LETTER N WITH MIDDLE=TILDE;
LATIN SMALL LETTER N WITH OBLIQUE=STROKE;LATIN SMALL LETTER N WITH PALATAL=HOOK;
LATIN SMALL LETTER N WITH RETROFLEX=HOOK;LATIN SMALL LETTER O WITH=ACUTE,BREVE,CARON,CIRCUMFLEX,
DIAERESIS,GRAVE,HORN,LOOP,MACRON,OGONEK,STROKE,TILDE;
LATIN SMALL LETTER O WITH CIRCUMFLEX AND=ACUTE,GRAVE,TILDE;
LATIN SMALL LETTER O WITH CIRCUMFLEX AND DOT=BELOW;
LATIN SMALL LETTER O WITH CIRCUMFLEX AND HOOK=ABOVE;LATIN SMALL LETTER O WITH DIAERESIS AND=MACRON;
LATIN SMALL LETTER O WITH DOT=ABOVE,BELOW;LATIN SMALL LETTER O WITH DOT ABOVE AND=MACRON;
LATIN SMALL LETTER O WITH DOUBLE=ACUTE,GRAVE;LATIN SMALL LETTER O WITH HOOK=ABOVE;
LATIN SMALL LETTER O WITH HORN AND=ACUTE,GRAVE,TILDE;LATIN SMALL LETTER O WITH HORN AND DOT=BELOW;
LATIN SMALL LETTER O WITH HORN AND HOOK=ABOVE;LATIN SMALL LETTER O WITH INVERTED=BREVE;
LATIN SMALL LETTER O WITH LONG STROKE=OVERLAY;LATIN SMALL LETTER O WITH LOW RING=INSIDE;
LATIN SMALL LETTER O WITH MACRON AND=ACUTE,GRAVE;LATIN SMALL LETTER O WITH OGONEK AND=MACRON;
LATIN SMALL LETTER O WITH RETROFLEX=HOOK;LATIN SMALL LETTER O WITH STROKE AND=ACUTE;
LATIN SMALL LETTER O WITH TILDE AND=ACUTE,DIAERESIS,MACRON;LATIN SMALL LETTER OLD POLISH=O;
LATIN SMALL LETTER OPEN=E,O,OE;LATIN SMALL LETTER OPEN E WITH RETROFLEX=HOOK;
LATIN SMALL LETTER OPEN O WITH=STROKE;LATIN SMALL LETTER OPEN O WITH RETROFLEX=HOOK;
LATIN SMALL LETTER P WITH=ACUTE,FLOURISH,HOOK,STROKE;LATIN SMALL LETTER P WITH DOT=ABOVE;
LATIN SMALL LETTER P WITH MIDDLE=TILDE;LATIN SMALL LETTER P WITH PALATAL=HOOK;
LATIN SMALL LETTER P WITH SQUIRREL=TAIL;LATIN SMALL LETTER P WITH STROKE THROUGH=DESCENDER;
LATIN SMALL LETTER Q WITH=HOOK;LATIN SMALL LETTER Q WITH DIAGONAL=STROKE;
LATIN SMALL LETTER Q WITH HOOK=TAIL;LATIN SMALL LETTER Q WITH STROKE THROUGH=DESCENDER;
LATIN SMALL LETTER QP=DIGRAPH;LATIN SMALL LETTER R=ROTUNDA;LATIN SMALL LETTER R WITH=ACUTE,CARON,
CEDILLA,CROSSED-TAIL,FISHHOOK,STROKE,TAIL;LATIN SMALL LETTER R WITH DOT=ABOVE,BELOW;
LATIN SMALL LETTER R WITH DOT BELOW AND=MACRON;LATIN SMALL LETTER R WITH DOUBLE=GRAVE;
LATIN SMALL LETTER R WITH FISHHOOK AND MIDDLE=TILDE;
LATIN SMALL LETTER R WITH FISHHOOK AND PALATAL=HOOK;LATIN SMALL LETTER R WITH INVERTED=BREVE;
LATIN SMALL LETTER R WITH LINE=BELOW;LATIN SMALL LETTER R WITH LONG=LEG;
LATIN SMALL LETTER R WITH MIDDLE=TILDE;LATIN SMALL LETTER R WITH OBLIQUE=STROKE;
LATIN SMALL LETTER R WITH PALATAL=HOOK;LATIN SMALL LETTER R WITHOUT=HANDLE;
LATIN SMALL LETTER RAMS=HORN;LATIN SMALL LETTER REVERSED=C,E,ENG,K;
LATIN SMALL LETTER REVERSED C WITH=DOT;LATIN SMALL LETTER REVERSED HALF=H;
LATIN SMALL LETTER REVERSED OPEN=E;LATIN SMALL LETTER REVERSED OPEN E WITH=HOOK;
LATIN SMALL LETTER REVERSED OPEN E WITH RETROFLEX=HOOK;LATIN SMALL LETTER REVERSED R WITH=FISHHOOK;
LATIN SMALL LETTER REVERSED SCRIPT=G;LATIN SMALL LETTER RUM=ROTUNDA;
LATIN SMALL LETTER S WITH=ACUTE,CARON,CEDILLA,CIRCUMFLEX,CURL,HOOK;
LATIN SMALL LETTER S WITH ACUTE AND DOT=ABOVE;LATIN SMALL LETTER S WITH CARON AND DOT=ABOVE;
LATIN SMALL LETTER S WITH COMMA=BELOW;LATIN SMALL LETTER S WITH DOT=ABOVE,BELOW;
LATIN SMALL LETTER S WITH DOT BELOW AND DOT=ABOVE;LATIN SMALL LETTER S WITH MIDDLE=TILDE;
LATIN SMALL LETTER S WITH OBLIQUE=STROKE;LATIN SMALL LETTER S WITH PALATAL=HOOK;
LATIN SMALL LETTER S WITH SHORT STROKE=OVERLAY;LATIN SMALL LETTER S WITH SWASH=TAIL;
LATIN SMALL LETTER SAKHA=YAT;LATIN SMALL LETTER SCHWA WITH=HOOK;
LATIN SMALL LETTER SCHWA WITH RETROFLEX=HOOK;LATIN SMALL LETTER SCRIPT=G,R;
LATIN SMALL LETTER SCRIPT G WITH=CROSSED-TAIL;LATIN SMALL LETTER SCRIPT R WITH=RING;
LATIN SMALL LETTER SHARP=S;LATIN SMALL LETTER SIDEWAYS=O,U;
LATIN SMALL LETTER SIDEWAYS DIAERESIZED=U;LATIN SMALL LETTER SIDEWAYS O WITH=STROKE;
LATIN SMALL LETTER SIDEWAYS OPEN=O;LATIN SMALL LETTER SIDEWAYS TURNED=M;
LATIN SMALL LETTER SIGMOID=S;LATIN SMALL LETTER SQUAT REVERSED=ESH;LATIN SMALL LETTER STIRRUP=R;
LATIN SMALL LETTER T WITH=CARON,CEDILLA,CURL,DIAERESIS,HOOK,STROKE;
LATIN SMALL LETTER T WITH CIRCUMFLEX=BELOW;LATIN SMALL LETTER T WITH COMMA=BELOW;
LATIN SMALL LETTER T WITH DIAGONAL=STROKE;LATIN SMALL LETTER T WITH DOT=ABOVE,BELOW;
LATIN SMALL LETTER T WITH HOOK AND RETROFLEX=HOOK;LATIN SMALL LETTER T WITH LINE=BELOW;
LATIN SMALL LETTER T WITH MIDDLE=TILDE;LATIN SMALL LETTER T WITH PALATAL=HOOK;
LATIN SMALL LETTER T WITH RETROFLEX=HOOK;LATIN SMALL LETTER TAILLESS=PHI;
LATIN SMALL LETTER TC DIGRAPH WITH=CURL;LATIN SMALL LETTER TESH=DIGRAPH;
LATIN SMALL LETTER TESH DIGRAPH WITH PALATAL=HOOK;
LATIN SMALL LETTER TESH DIGRAPH WITH RETROFLEX=HOOK;LATIN SMALL LETTER TH WITH=STRIKETHROUGH;
LATIN SMALL LETTER THORN WITH=STROKE;LATIN SMALL LETTER THORN WITH STROKE THROUGH=DESCENDER;
LATIN SMALL LETTER TONE=FIVE,SIX,TWO;LATIN SMALL LETTER TOP HALF=O;LATIN SMALL LETTER TS=DIGRAPH;
LATIN SMALL LETTER TS DIGRAPH WITH RETROFLEX=HOOK;LATIN SMALL LETTER TURNED=A,AE,ALPHA,DELTA,E,G,H,
I,K,L,M,OE,R,T,UI,V,W,Y;LATIN SMALL LETTER TURNED H WITH=FISHHOOK;
LATIN SMALL LETTER TURNED H WITH FISHHOOK AND=TAIL;LATIN SMALL LETTER TURNED INSULAR=G;
LATIN SMALL LETTER TURNED M WITH LONG=LEG;LATIN SMALL LETTER TURNED O=OPEN-O;
LATIN SMALL LETTER TURNED O OPEN-O WITH=STROKE;LATIN SMALL LETTER TURNED OE WITH=STROKE;
LATIN SMALL LETTER TURNED OE WITH HORIZONTAL=STROKE;LATIN SMALL LETTER TURNED OPEN=E;
LATIN SMALL LETTER TURNED R WITH=HOOK,TAIL;LATIN SMALL LETTER TURNED R WITH LONG=LEG;
LATIN SMALL LETTER TURNED R WITH LONG LEG AND RETROFLEX=HOOK;
LATIN SMALL LETTER TURNED R WITH MIDDLE=TILDE;LATIN SMALL LETTER TURNED R WITH PALATAL=HOOK;
LATIN SMALL LETTER TURNED T WITH=CURL;LATIN SMALL LETTER TURNED Y WITH=BELT;
LATIN SMALL LETTER U=BAR;LATIN SMALL LETTER U BAR WITH SHORT RIGHT=LEG;
LATIN SMALL LETTER U WITH=ACUTE,BREVE,CARON,CIRCUMFLEX,DIAERESIS,GRAVE,HORN,MACRON,OGONEK,STROKE,
TILDE;LATIN SMALL LETTER U WITH CIRCUMFLEX=BELOW;LATIN SMALL LETTER U WITH DIAERESIS=BELOW;
LATIN SMALL LETTER U WITH DIAERESIS AND=ACUTE,CARON,GRAVE,MACRON;
LATIN SMALL LETTER U WITH DOT=BELOW;LATIN SMALL LETTER U WITH DOUBLE=ACUTE,GRAVE;
LATIN SMALL LETTER U WITH HOOK=ABOVE;LATIN SMALL LETTER U WITH HORN AND=ACUTE,GRAVE,TILDE;
LATIN SMALL LETTER U WITH HORN AND DOT=BELOW;LATIN SMALL LETTER U WITH HORN AND HOOK=ABOVE;
LATIN SMALL LETTER U WITH INVERTED=BREVE;LATIN SMALL LETTER U WITH LEFT=HOOK;
LATIN SMALL LETTER U WITH MACRON AND=DIAERESIS;LATIN SMALL LETTER U WITH RETROFLEX=HOOK;
LATIN SMALL LETTER U WITH RING=ABOVE;LATIN SMALL LETTER U WITH SHORT RIGHT=LEG;
LATIN SMALL LETTER U WITH TILDE=BELOW;LATIN SMALL LETTER U WITH TILDE AND=ACUTE;
LATIN SMALL LETTER UPSILON WITH=STROKE;LATIN SMALL LETTER V WITH=CURL,HOOK,TILDE;
LATIN SMALL LETTER V WITH DIAGONAL=STROKE;LATIN SMALL LETTER V WITH DOT=BELOW;
LATIN SMALL LETTER V WITH PALATAL=HOOK;LATIN SMALL LETTER V WITH RIGHT=HOOK;
LATIN SMALL LETTER VISIGOTHIC=Z;LATIN SMALL LETTER VOLAPUK=AE,OE,UE;
LATIN SMALL LETTER W WITH=ACUTE,CIRCUMFLEX,DIAERESIS,GRAVE,HOOK;
LATIN SMALL LETTER W WITH DOT=ABOVE,BELOW;LATIN SMALL LETTER W WITH RING=ABOVE;
LATIN SMALL LETTER X WITH=DIAERESIS;LATIN SMALL LETTER X WITH DOT=ABOVE;
LATIN SMALL LETTER X WITH LONG LEFT=LEG;LATIN SMALL LETTER X WITH LONG LEFT LEG AND LOW RIGHT=RING;
LATIN SMALL LETTER X WITH LONG LEFT LEG WITH=SERIF;LATIN SMALL LETTER X WITH LOW RIGHT=RING;
LATIN SMALL LETTER X WITH PALATAL=HOOK;LATIN SMALL LETTER Y WITH=ACUTE,CIRCUMFLEX,DIAERESIS,GRAVE,
HOOK,LOOP,MACRON,STROKE,TILDE;LATIN SMALL LETTER Y WITH DOT=ABOVE,BELOW;
LATIN SMALL LETTER Y WITH HOOK=ABOVE;LATIN SMALL LETTER Y WITH RING=ABOVE;
LATIN SMALL LETTER Y WITH SHORT RIGHT=LEG;LATIN SMALL LETTER Z WITH=ACUTE,CARON,CIRCUMFLEX,CURL,
DESCENDER,HOOK,STROKE;LATIN SMALL LETTER Z WITH DOT=ABOVE,BELOW;
LATIN SMALL LETTER Z WITH LINE=BELOW;LATIN SMALL LETTER Z WITH MIDDLE=TILDE;
LATIN SMALL LETTER Z WITH PALATAL=HOOK;LATIN SMALL LETTER Z WITH RETROFLEX=HOOK;
LATIN SMALL LETTER Z WITH SWASH=TAIL;LATIN SMALL LIGATURE=FF,FFI,FFL,FI,FL,IJ,OE,ST;
LATIN SMALL LIGATURE LONG S=T;LATIN SUBSCRIPT SMALL LETTER=A,E,H,I,J,K,L,M,N,O,P,R,S,SCHWA,T,U,V,X;
LEAF FLUTTERING IN=WIND;LEAFY=GREEN;LEFT=CEILING,FLOOR,LUGGAGE,MULTIMAP,PARENTHESIS,TACK;
LEFT AND LOWER AND RIGHT TRIANGULAR THREE QUARTERS=BLOCK;LEFT AND LOWER ONE EIGHTH=BLOCK;
LEFT AND RIGHT=TACK;LEFT AND RIGHT DOUBLE=TURNSTILE;LEFT AND RIGHT TRIANGULAR HALF=BLOCK;
LEFT AND UPPER AND RIGHT TRIANGULAR THREE QUARTERS=BLOCK;LEFT AND UPPER ONE EIGHTH=BLOCK;
LEFT ANGER=BUBBLE;LEFT ANGLE=BRACKET;LEFT ANGLE BRACKET WITH=DOT;LEFT ARC LESS-THAN=BRACKET;
LEFT ARROW WITH CIRCLED=PLUS;LEFT ARROW WITH SMALL=CIRCLE;LEFT BARB DOWN RIGHT BARB DOWN=HARPOON;
LEFT BARB DOWN RIGHT BARB UP=HARPOON;LEFT BARB UP RIGHT BARB DOWN=HARPOON;
LEFT BARB UP RIGHT BARB UP=HARPOON;LEFT BLACK LENTICULAR=BRACKET;LEFT BLACK TORTOISE SHELL=BRACKET;
LEFT CLOSED=ENTRY;LEFT CORNER=BRACKET;LEFT CURLY=BRACKET;LEFT CURLY BRACKET LOWER=HOOK;
LEFT CURLY BRACKET MIDDLE=PIECE;LEFT CURLY BRACKET UPPER=HOOK;LEFT DOTTED SUBSTITUTION=BRACKET;
LEFT DOUBLE=PARENTHESIS;LEFT DOUBLE ANGLE=BRACKET;LEFT DOUBLE QUOTATION=MARK;
LEFT DOUBLE WIGGLY=FENCE;LEFT FISH=TAIL;LEFT FIVE EIGHTHS=BLOCK;LEFT HALF=BLOCK,CIRCLE,FOLDER;
LEFT HALF BLACK=CIRCLE,STAR;LEFT HALF CIRCLE WITH=DOT;LEFT HALF CIRCLE WITH FOUR=DOTS;
LEFT HALF CIRCLE WITH THREE=DOTS;LEFT HALF CIRCLE WITH TWO=DOTS;
LEFT HALF INVERSE MEDIUM SHADE AND RIGHT HALF=BLOCK;LEFT HALF MEDIUM=SHADE;LEFT HALF RUNNING=MAN;
LEFT HAND TELEPHONE=RECEIVER;LEFT LOW PARAPHRASE=BRACKET;LEFT NORMAL FACTOR SEMIDIRECT=PRODUCT;
LEFT ONE EIGHTH=BLOCK;LEFT ONE QUARTER=BLOCK;LEFT OUTER=JOIN;LEFT PARENTHESIS=EXTENSION;
LEFT PARENTHESIS LOWER=HOOK;LEFT PARENTHESIS UPPER=HOOK;LEFT RAISED OMISSION=BRACKET;
LEFT RIGHT=ARROW;LEFT RIGHT ARROW THROUGH SMALL=CIRCLE;LEFT RIGHT ARROW WITH=STROKE;
LEFT RIGHT ARROW WITH DOUBLE VERTICAL=STROKE;LEFT RIGHT ARROW WITH VERTICAL=STROKE;
LEFT RIGHT BLACK=ARROW;LEFT RIGHT DOUBLE=ARROW;LEFT RIGHT DOUBLE ARROW WITH=STROKE;
LEFT RIGHT DOUBLE ARROW WITH VERTICAL=STROKE;LEFT RIGHT OPEN-HEADED=ARROW;
LEFT RIGHT SANS-SERIF=ARROW;LEFT RIGHT TRIANGLE-HEADED=ARROW;LEFT RIGHT WAVE=ARROW;
LEFT RIGHT WHITE=ARROW;LEFT S-SHAPED BAG=DELIMITER;LEFT SEMIDIRECT=PRODUCT;
LEFT SEVEN EIGHTHS=BLOCK;LEFT SIDEWAYS U=BRACKET;LEFT SINGLE QUOTATION=MARK;LEFT SPEECH=BUBBLE;
LEFT SQUARE=BRACKET;LEFT SQUARE BRACKET=EXTENSION;LEFT SQUARE BRACKET LOWER=CORNER;
LEFT SQUARE BRACKET UPPER=CORNER;LEFT SQUARE BRACKET WITH=QUILL,STROKE,UNDERBAR;
LEFT SQUARE BRACKET WITH DOUBLE=STROKE;LEFT SQUARE BRACKET WITH TICK IN BOTTOM=CORNER;
LEFT SQUARE BRACKET WITH TICK IN TOP=CORNER;LEFT SUBSTITUTION=BRACKET;
LEFT THIRD WHITE RIGHT POINTING=INDEX;LEFT THOUGHT=BUBBLE;LEFT THREE EIGHTHS=BLOCK;
LEFT THREE QUARTERS=BLOCK;LEFT TORTOISE SHELL=BRACKET;LEFT TRANSPOSITION=BRACKET;
LEFT TRIANGLE BESIDE VERTICAL=BAR;LEFT TRIANGULAR ONE QUARTER=BLOCK;LEFT VERTICAL BAR WITH=QUILL;
LEFT VERTICAL BOX=LINE;LEFT WHITE=PARENTHESIS;LEFT WHITE CORNER=BRACKET;LEFT WHITE CURLY=BRACKET;
LEFT WHITE LENTICULAR=BRACKET;LEFT WHITE SQUARE=BRACKET;LEFT WHITE TORTOISE SHELL=BRACKET;
LEFT WIGGLY=FENCE;LEFT WRITING=HAND;LEFT-FACING=FIST;LEFT-FACING ARMENIAN ETERNITY=SIGN;
LEFT-FACING SVASTI=SIGN;LEFT-FACING SVASTI SIGN WITH=DOTS;LEFT-HANDED INTERLACED=PENTAGRAM;
LEFT-POINTING ANGLE=BRACKET;LEFT-POINTING CURVED ANGLE=BRACKET;
LEFT-POINTING DOUBLE ANGLE QUOTATION=MARK;LEFT-POINTING MAGNIFYING=GLASS;
LEFT-SHADED WHITE RIGHTWARDS=ARROW;LEFT-SIDE ARC ANTICLOCKWISE=ARROW;LEFT-TO-RIGHT=EMBEDDING,
ISOLATE,MARK,OVERRIDE;LEFTWARDS=ARROW,ARROW-TAIL,HAND,ROCKET;LEFTWARDS ARROW ABOVE ALMOST EQUAL=TO;
LEFTWARDS ARROW ABOVE REVERSE ALMOST EQUAL=TO;LEFTWARDS ARROW ABOVE REVERSE TILDE=OPERATOR;
LEFTWARDS ARROW ABOVE SHORT RIGHTWARDS=ARROW;LEFTWARDS ARROW ABOVE TILDE=OPERATOR;
LEFTWARDS ARROW AND UPPER AND LOWER ONE EIGHTH=BLOCK;LEFTWARDS ARROW FROM=BAR;
LEFTWARDS ARROW FROM BAR TO BLACK=DIAMOND;LEFTWARDS ARROW OVER RIGHTWARDS=ARROW;
LEFTWARDS ARROW THROUGH=LESS-THAN,SUBSET,X;LEFTWARDS ARROW TO=BAR;
LEFTWARDS ARROW TO BAR OVER RIGHTWARDS ARROW TO=BAR;LEFTWARDS ARROW TO BLACK=DIAMOND;
LEFTWARDS ARROW WITH=HOOK,LOOP,STROKE,TAIL;LEFTWARDS ARROW WITH DOTTED=STEM;
LEFTWARDS ARROW WITH DOUBLE VERTICAL=STROKE;LEFTWARDS ARROW WITH EQUILATERAL=ARROWHEAD;
LEFTWARDS ARROW WITH LARGE TRIANGLE=ARROWHEAD;LEFTWARDS ARROW WITH MEDIUM TRIANGLE=ARROWHEAD;
LEFTWARDS ARROW WITH NOTCHED=TAIL;LEFTWARDS ARROW WITH PLUS=BELOW;
LEFTWARDS ARROW WITH SMALL EQUILATERAL=ARROWHEAD;LEFTWARDS ARROW WITH SMALL TRIANGLE=ARROWHEAD;
LEFTWARDS ARROW WITH TAIL WITH DOUBLE VERTICAL=STROKE;
LEFTWARDS ARROW WITH TAIL WITH VERTICAL=STROKE;LEFTWARDS ARROW WITH TIP=DOWNWARDS,UPWARDS;
LEFTWARDS ARROW WITH VERTICAL=STROKE;LEFTWARDS BACK-TILTED SHADOWED WHITE=ARROW;
LEFTWARDS BLACK=ARROW;LEFTWARDS BLACK CIRCLED WHITE=ARROW;LEFTWARDS BOTTOM-SHADED WHITE=ARROW;
LEFTWARDS COMPRESSED=ARROW;LEFTWARDS DASHED=ARROW;LEFTWARDS DOUBLE=ARROW,ARROW-TAIL;
LEFTWARDS DOUBLE ARROW FROM=BAR;LEFTWARDS DOUBLE ARROW WITH=STROKE;
LEFTWARDS DOUBLE ARROW WITH VERTICAL=STROKE;LEFTWARDS DOUBLE DASH=ARROW;
LEFTWARDS FINGER-POST=ARROW;LEFTWARDS FRONT-TILTED SHADOWED WHITE=ARROW;
LEFTWARDS HARPOON OVER RIGHTWARDS=HARPOON;LEFTWARDS HARPOON WITH BARB=DOWNWARDS,UPWARDS;
LEFTWARDS HARPOON WITH BARB DOWN ABOVE RIGHTWARDS HARPOON WITH BARB=DOWN;
LEFTWARDS HARPOON WITH BARB DOWN BELOW LONG=DASH;LEFTWARDS HARPOON WITH BARB DOWN FROM=BAR;
LEFTWARDS HARPOON WITH BARB DOWN TO=BAR;
LEFTWARDS HARPOON WITH BARB UP ABOVE LEFTWARDS HARPOON WITH BARB=DOWN;
LEFTWARDS HARPOON WITH BARB UP ABOVE LONG=DASH;
LEFTWARDS HARPOON WITH BARB UP ABOVE RIGHTWARDS HARPOON WITH BARB=UP;
LEFTWARDS HARPOON WITH BARB UP FROM=BAR;LEFTWARDS HARPOON WITH BARB UP TO=BAR;
LEFTWARDS HEAVY=ARROW;LEFTWARDS HEAVY COMPRESSED=ARROW;LEFTWARDS LEFT-SHADED WHITE=ARROW;
LEFTWARDS OPEN-HEADED=ARROW;LEFTWARDS PAIRED=ARROWS;LEFTWARDS QUADRUPLE=ARROW;
LEFTWARDS RIGHT-SHADED WHITE=ARROW;LEFTWARDS SANS-SERIF=ARROW;LEFTWARDS SQUARED=ARROW;
LEFTWARDS SQUIGGLE=ARROW;LEFTWARDS TOP SHADED WHITE=ARROW;LEFTWARDS TRIANGLE=ARROWHEAD;
LEFTWARDS TRIANGLE-HEADED=ARROW;
LEFTWARDS TRIANGLE-HEADED ARROW OVER RIGHTWARDS TRIANGLE-HEADED=ARROW;
LEFTWARDS TRIANGLE-HEADED ARROW TO=BAR;LEFTWARDS TRIANGLE-HEADED ARROW WITH BOLD=SHAFT;
LEFTWARDS TRIANGLE-HEADED ARROW WITH DOUBLE HORIZONTAL=STROKE;
LEFTWARDS TRIANGLE-HEADED ARROW WITH DOUBLE VERTICAL=STROKE;
LEFTWARDS TRIANGLE-HEADED ARROW WITH HEAVY=SHAFT;
LEFTWARDS TRIANGLE-HEADED ARROW WITH LONG TIP=DOWNWARDS,UPWARDS;
LEFTWARDS TRIANGLE-HEADED ARROW WITH MEDIUM=SHAFT;
LEFTWARDS TRIANGLE-HEADED ARROW WITH NARROW=SHAFT;
LEFTWARDS TRIANGLE-HEADED ARROW WITH VERY HEAVY=SHAFT;LEFTWARDS TRIANGLE-HEADED DASHED=ARROW;
LEFTWARDS TRIANGLE-HEADED PAIRED=ARROWS;LEFTWARDS TRIPLE=ARROW;LEFTWARDS TRIPLE DASH=ARROW;
LEFTWARDS TWO HEADED=ARROW;LEFTWARDS TWO-HEADED ARROW FROM=BAR;
LEFTWARDS TWO-HEADED ARROW WITH=TAIL;LEFTWARDS TWO-HEADED ARROW WITH DOUBLE VERTICAL=STROKE;
LEFTWARDS TWO-HEADED ARROW WITH TAIL WITH DOUBLE VERTICAL=STROKE;
LEFTWARDS TWO-HEADED ARROW WITH TAIL WITH VERTICAL=STROKE;
LEFTWARDS TWO-HEADED ARROW WITH TRIANGLE=ARROWHEADS;
LEFTWARDS TWO-HEADED ARROW WITH VERTICAL=STROKE;LEFTWARDS TWO-HEADED TRIPLE DASH=ARROW;
LEFTWARDS WAVE=ARROW;LEFTWARDS WHITE=ARROW;LEFTWARDS WHITE ARROW WITHIN TRIANGLE=ARROWHEAD;
LEPCHA CONSONANT SIGN=K,KANG,L,M,N,NYIN-DO,P,R,T;LEPCHA DIGIT=EIGHT,FIVE,FOUR,NINE,ONE,SEVEN,SIX,
THREE,TWO,ZERO;LEPCHA LETTER=A,BA,BLA,CA,CHA,DA,DDA,DZA,FA,FLA,GA,GLA,HA,HLA,JA,KA,KHA,KLA,LA,MA,
MLA,NA,NGA,NYA,PA,PHA,PLA,RA,SA,SHA,TA,THA,TSA,TSHA,TTA,TTHA,VA,WA,YA;LEPCHA PUNCTUATION=CER-WA,
TA-ROL,TSHOOK;LEPCHA PUNCTUATION NYET THYOOM=TA-ROL;LEPCHA PUNCTUATION TSHOOK=CER-WA;
LEPCHA SIGN=NUKTA,RAN;LEPCHA SUBJOINED LETTER=RA,YA;LEPCHA VOWEL SIGN=AA,E,I,O,OO,U,UU;
LESS-THAN=SIGN;LESS-THAN ABOVE DOUBLE-LINE EQUAL ABOVE=GREATER-THAN;
LESS-THAN ABOVE GREATER-THAN ABOVE DOUBLE-LINE=EQUAL;LESS-THAN ABOVE LEFTWARDS=ARROW;
LESS-THAN ABOVE SIMILAR ABOVE=GREATER-THAN;LESS-THAN ABOVE SIMILAR OR=EQUAL;
LESS-THAN ABOVE SLANTED EQUAL ABOVE GREATER-THAN ABOVE SLANTED=EQUAL;LESS-THAN AND NOT=APPROXIMATE;
LESS-THAN AND SINGLE-LINE NOT EQUAL=TO;LESS-THAN BUT NOT EQUAL=TO;LESS-THAN BUT NOT EQUIVALENT=TO;
LESS-THAN CLOSED BY=CURVE;LESS-THAN CLOSED BY CURVE ABOVE SLANTED=EQUAL;
LESS-THAN EQUAL TO OR=GREATER-THAN;LESS-THAN OR=APPROXIMATE,GREATER-THAN;LESS-THAN OR EQUAL=TO;
LESS-THAN OR EQUIVALENT=TO;LESS-THAN OR SLANTED EQUAL=TO;
LESS-THAN OR SLANTED EQUAL TO WITH DOT=ABOVE,INSIDE;
LESS-THAN OR SLANTED EQUAL TO WITH DOT ABOVE=RIGHT;LESS-THAN OVER EQUAL=TO;LESS-THAN WITH=DOT;
LESS-THAN WITH CIRCLE=INSIDE;LESS-THAN WITH QUESTION MARK=ABOVE;LEVEL=SLIDER;
LIGATURE OPEN ET=ORNAMENT;LIGHT=RAIL,SALTIRE,SHADE;LIGHT CHECK=MARK;LIGHT EIGHT SPOKED=ASTERISK;
LIGHT FIVE POINTED BLACK=STAR;LIGHT FIVE SPOKED=ASTERISK;LIGHT FOUR POINTED BLACK=CUSP,STAR;
LIGHT GREEK=CROSS;LIGHT LEFT TORTOISE SHELL BRACKET=ORNAMENT;
LIGHT RIGHT TORTOISE SHELL BRACKET=ORNAMENT;LIGHT SIX SPOKED=ASTERISK;
LIGHT THREE POINTED BLACK=STAR;LIGHT TWELVE POINTED BLACK=STAR;LIGHT VERTICAL=BAR;
LIGHT WHITE=SQUARE;LIGHTNING=MOOD;LIGHTNING MOOD=BUBBLE;LIMBU DIGIT=EIGHT,FIVE,FOUR,NINE,ONE,SEVEN,
SIX,THREE,TWO,ZERO;LIMBU EXCLAMATION=MARK;LIMBU LETTER=BA,BHA,CA,CHA,DA,DHA,GA,GHA,GYAN,HA,JA,JHA,
KA,KHA,LA,MA,NA,NGA,PA,PHA,RA,SA,SHA,SSA,TA,THA,TRA,WA,YA,YAN;LIMBU QUESTION=MARK;
LIMBU SIGN=KEMPHRENG,LOO,MUKPHRENG,SA-I;LIMBU SMALL LETTER=ANUSVARA,KA,LA,MA,NA,NGA,PA,RA,TA;
LIMBU SUBJOINED LETTER=RA,WA,YA;LIMBU VOWEL SIGN=A,AI,AU,E,EE,I,O,OO,U;LIMBU VOWEL-CARRIER=LETTER;
LIMITED LIABILITY=SIGN;LINE=FEED,SEPARATOR,TABULATION;LINE INTEGRATION NOT INCLUDING THE=POLE;
LINE INTEGRATION WITH RECTANGULAR PATH AROUND=POLE;
LINE INTEGRATION WITH SEMICIRCULAR PATH AROUND=POLE;LINE TABULATION=SET;LINEAR A SIGN=A028B,
A100-102,A120B,A131C,A301,A302,A303,A304,A305,A306,A307,A308,A309A,A309B,A309C,A310,A311,A312,
A313A,A313B,A313C,A314,A315,A316,A317,A318,A319,A320,A321,A322,A323,A324,A325,A326,A327,A328,A329,
A330,A331,A332,A333,A334,A335,A336,A337,A338,A339,A340,A341,A342,A343,A344,A345,A346,A347,A348,
A349,A350,A351,A352,A353,A354,A355,A356,A357,A358,A359,A360,A361,A362,A363,A364,A365,A366,A367,
A368,A369,A370,A371,A400-VAS,A401-VAS,A402-VAS,A403-VAS,A404-VAS,A405-VAS,A406-VAS,A407-VAS,
A408-VAS,A409-VAS,A410-VAS,A411-VAS,A412-VAS,A413-VAS,A414-VAS,A415-VAS,A416-VAS,A417-VAS,A418-VAS,
A501,A502,A503,A504,A505,A506,A508,A509,A510,A511,A512,A513,A515,A516,A520,A521,A523,A524,A525,
A526,A527,A528,A529,A530,A531,A532,A534,A535,A536,A537,A538,A539,A540,A541,A542,A545,A547,A548,
A549,A550,A551,A552,A553,A554,A555,A556,A557,A559,A563,A564,A565,A566,A568,A569,A570,A571,A572,
A573,A574,A575,A576,A577,A578,A579,A580,A581,A582,A583,A584,A585,A586,A587,A588,A589,A591,A592,
A594,A595,A596,A598,A600,A601,A602,A603,A604,A606,A608,A609,A610,A611,A612,A613,A614,A615,A616,
A617,A618,A619,A620,A621,A622,A623,A624,A626,A627,A628,A629,A634,A637,A638,A640,A642,A643,A644,
A645,A646,A648,A649,A651,A652,A653,A654,A655,A656,A657,A658,A659,A660,A661,A662,A663,A664,A800,
A801,A802,A803,A804,A805,A806,A807,AB001,AB002,AB003,AB004,AB005,AB006,AB007,AB008,AB009,AB010,
AB011,AB013,AB016,AB017,AB020,AB021,AB021F,AB021M,AB022,AB022F,AB022M,AB023,AB023M,AB024,AB026,
AB027,AB028,AB029,AB030,AB031,AB034,AB037,AB038,AB039,AB040,AB041,AB044,AB045,AB046,AB047,AB048,
AB049,AB050,AB051,AB053,AB054,AB055,AB056,AB057,AB058,AB059,AB060,AB061,AB065,AB066,AB067,AB069,
AB070,AB073,AB074,AB076,AB077,AB078,AB079,AB080,AB081,AB082,AB085,AB086,AB087,AB118,AB120,AB122,
AB123,AB131A,AB131B,AB164,AB171,AB180,AB188,AB191;LINEAR A SIGN A701=A;LINEAR A SIGN A702=B;
LINEAR A SIGN A703=D;LINEAR A SIGN A704=E;LINEAR A SIGN A705=F;LINEAR A SIGN A706=H;
LINEAR A SIGN A707=J;LINEAR A SIGN A708=K;LINEAR A SIGN A709=L;LINEAR A SIGN A709-2=L2;
LINEAR A SIGN A709-3=L3;LINEAR A SIGN A709-4=L4;LINEAR A SIGN A709-6=L6;LINEAR A SIGN A710=W;
LINEAR A SIGN A711=X;LINEAR A SIGN A712=Y;LINEAR A SIGN A713=OMEGA;LINEAR A SIGN A714=ABB;
LINEAR A SIGN A715=BB;LINEAR A SIGN A717=DD;LINEAR A SIGN A726=EYYY;LINEAR A SIGN A732=JE;
LINEAR B IDEOGRAM=B132,B142,B146,B150,B152,B153,B154,B157,B158,B160,B161,B164,B165,B166,B167,B168,
B169,B170,B171,B172,B174,B177,B178,B179,B180,B181,B182,B183,B184,B185,B189,B190,B232,B234,B236,
B245,B246,B248,B249,B251,B252,B253,B255,B256,B257,B258,B259;LINEAR B IDEOGRAM B100=MAN;
LINEAR B IDEOGRAM B102=WOMAN;LINEAR B IDEOGRAM B104=DEER;LINEAR B IDEOGRAM B105=EQUID;
LINEAR B IDEOGRAM B105F=MARE;LINEAR B IDEOGRAM B105M=STALLION;LINEAR B IDEOGRAM B106F=EWE;
LINEAR B IDEOGRAM B106M=RAM;LINEAR B IDEOGRAM B107F=SHE-GOAT;LINEAR B IDEOGRAM B107M=HE-GOAT;
LINEAR B IDEOGRAM B108F=SOW;LINEAR B IDEOGRAM B108M=BOAR;LINEAR B IDEOGRAM B109F=COW;
LINEAR B IDEOGRAM B109M=BULL;LINEAR B IDEOGRAM B120=WHEAT;LINEAR B IDEOGRAM B121=BARLEY;
LINEAR B IDEOGRAM B122=OLIVE;LINEAR B IDEOGRAM B123=SPICE;LINEAR B IDEOGRAM B125=CYPERUS;
LINEAR B IDEOGRAM B130=OIL;LINEAR B IDEOGRAM B131=WINE;LINEAR B IDEOGRAM B140=BRONZE;
LINEAR B IDEOGRAM B141=GOLD;LINEAR B IDEOGRAM B145=WOOL;LINEAR B IDEOGRAM B151=HORN;
LINEAR B IDEOGRAM B159=CLOTH;LINEAR B IDEOGRAM B162=GARMENT;LINEAR B IDEOGRAM B163=ARMOUR;
LINEAR B IDEOGRAM B173=MONTH;LINEAR B IDEOGRAM B176=TREE;LINEAR B IDEOGRAM B191=HELMET;
LINEAR B IDEOGRAM B220=FOOTSTOOL;LINEAR B IDEOGRAM B225=BATHTUB;LINEAR B IDEOGRAM B230=SPEAR;
LINEAR B IDEOGRAM B231=ARROW;LINEAR B IDEOGRAM B233=SWORD;LINEAR B IDEOGRAM B240 WHEELED=CHARIOT;
LINEAR B IDEOGRAM B241=CHARIOT;LINEAR B IDEOGRAM B242 CHARIOT=FRAME;LINEAR B IDEOGRAM B243=WHEEL;
LINEAR B IDEOGRAM B254=DART;LINEAR B IDEOGRAM VESSEL=B155,B200,B201,B202,B203,B204,B205,B206,B207,
B208,B209,B210,B211,B212,B213,B214,B215,B216,B217,B218,B219,B221,B222,B226,B227,B228,B229,B250,
B305;LINEAR B MONOGRAM B127=KAPO;LINEAR B MONOGRAM B128=KANAKO;LINEAR B MONOGRAM B133=AREPA;
LINEAR B MONOGRAM B135=MERI;LINEAR B MONOGRAM B156=TURO2;LINEAR B MONOGRAM B247=DIPTE;
LINEAR B SYLLABLE B001=DA;LINEAR B SYLLABLE B002=RO;LINEAR B SYLLABLE B003=PA;
LINEAR B SYLLABLE B004=TE;LINEAR B SYLLABLE B005=TO;LINEAR B SYLLABLE B006=NA;
LINEAR B SYLLABLE B007=DI;LINEAR B SYLLABLE B008=A;LINEAR B SYLLABLE B009=SE;
LINEAR B SYLLABLE B010=U;LINEAR B SYLLABLE B011=PO;LINEAR B SYLLABLE B012=SO;
LINEAR B SYLLABLE B013=ME;LINEAR B SYLLABLE B014=DO;LINEAR B SYLLABLE B015=MO;
LINEAR B SYLLABLE B016=QA;LINEAR B SYLLABLE B017=ZA;LINEAR B SYLLABLE B020=ZO;
LINEAR B SYLLABLE B021=QI;LINEAR B SYLLABLE B023=MU;LINEAR B SYLLABLE B024=NE;
LINEAR B SYLLABLE B025=A2;LINEAR B SYLLABLE B026=RU;LINEAR B SYLLABLE B027=RE;
LINEAR B SYLLABLE B028=I;LINEAR B SYLLABLE B029=PU2;LINEAR B SYLLABLE B030=NI;
LINEAR B SYLLABLE B031=SA;LINEAR B SYLLABLE B032=QO;LINEAR B SYLLABLE B033=RA3;
LINEAR B SYLLABLE B036=JO;LINEAR B SYLLABLE B037=TI;LINEAR B SYLLABLE B038=E;
LINEAR B SYLLABLE B039=PI;LINEAR B SYLLABLE B040=WI;LINEAR B SYLLABLE B041=SI;
LINEAR B SYLLABLE B042=WO;LINEAR B SYLLABLE B043=A3;LINEAR B SYLLABLE B044=KE;
LINEAR B SYLLABLE B045=DE;LINEAR B SYLLABLE B046=JE;LINEAR B SYLLABLE B048=NWA;
LINEAR B SYLLABLE B050=PU;LINEAR B SYLLABLE B051=DU;LINEAR B SYLLABLE B052=NO;
LINEAR B SYLLABLE B053=RI;LINEAR B SYLLABLE B054=WA;LINEAR B SYLLABLE B055=NU;
LINEAR B SYLLABLE B057=JA;LINEAR B SYLLABLE B058=SU;LINEAR B SYLLABLE B059=TA;
LINEAR B SYLLABLE B060=RA;LINEAR B SYLLABLE B061=O;LINEAR B SYLLABLE B062=PTE;
LINEAR B SYLLABLE B065=JU;LINEAR B SYLLABLE B066=TA2;LINEAR B SYLLABLE B067=KI;
LINEAR B SYLLABLE B068=RO2;LINEAR B SYLLABLE B069=TU;LINEAR B SYLLABLE B070=KO;
LINEAR B SYLLABLE B071=DWE;LINEAR B SYLLABLE B072=PE;LINEAR B SYLLABLE B073=MI;
LINEAR B SYLLABLE B074=ZE;LINEAR B SYLLABLE B075=WE;LINEAR B SYLLABLE B076=RA2;
LINEAR B SYLLABLE B077=KA;LINEAR B SYLLABLE B078=QE;LINEAR B SYLLABLE B080=MA;
LINEAR B SYLLABLE B081=KU;LINEAR B SYLLABLE B085=AU;LINEAR B SYLLABLE B087=TWE;
LINEAR B SYLLABLE B090=DWO;LINEAR B SYLLABLE B091=TWO;LINEAR B SYMBOL=B018,B019,B022,B034,B047,
B049,B056,B063,B064,B079,B082,B083,B086,B089;LINK=SYMBOL;LINKED=PAPERCLIPS;LION=FACE;LIRA=SIGN;
LISU LETTER=A,AE,BA,CA,CHA,DA,DZA,E,EU,FA,GA,GHA,HA,HHA,I,JA,KA,KHA,LA,MA,NA,NGA,O,OE,PA,PHA,SA,
SHA,TA,THA,TSA,TSHA,U,UE,UH,WA,XA,YA,YHA,ZA,ZHA;LISU LETTER TONE MYA=BO,CYA,JEU,NA,TI;
LISU LETTER TONE NA=PO;LISU PUNCTUATION=COMMA;LISU PUNCTUATION FULL=STOP;LIVRE TOURNOIS=SIGN;
LOCK WITH INK=PEN;LOCKING-SHIFT=ONE,ZERO;LOGICAL=AND,OR;LOGICAL AND WITH=UNDERBAR;
LOGICAL AND WITH DOT=ABOVE;LOGICAL AND WITH DOUBLE=OVERBAR,UNDERBAR;
LOGICAL AND WITH HORIZONTAL=DASH;LOGICAL AND WITH MIDDLE=STEM;LOGICAL OR OVERLAPPING LOGICAL=AND;
LOGICAL OR WITH DOT=ABOVE;LOGICAL OR WITH DOUBLE=OVERBAR,UNDERBAR;LOGICAL OR WITH HORIZONTAL=DASH;
LOGICAL OR WITH MIDDLE=STEM;LONG=DIVISION,DRUM;LONG DASH FROM LEFT MEMBER OF DOUBLE=VERTICAL;
LONG LEFT=TACK;LONG LEFT RIGHT=ARROW;LONG LEFT RIGHT DOUBLE=ARROW;LONG LEFTWARDS=ARROW;
LONG LEFTWARDS ARROW FROM=BAR;LONG LEFTWARDS DOUBLE=ARROW;LONG LEFTWARDS DOUBLE ARROW FROM=BAR;
LONG LEFTWARDS SQUIGGLE=ARROW;LONG RIGHT=TACK;LONG RIGHTWARDS=ARROW;LONG RIGHTWARDS ARROW FROM=BAR;
LONG RIGHTWARDS DOUBLE=ARROW;LONG RIGHTWARDS DOUBLE ARROW FROM=BAR;LONG RIGHTWARDS SQUIGGLE=ARROW;
LOTION=BOTTLE;LOUDLY CRYING=FACE;LOVE=HOTEL,LETTER;LOW=ASTERISK,BATTERY,KAVYKA,LINE;
LOW BRIGHTNESS=SYMBOL;LOW DOUBLE PRIME QUOTATION=MARK;LOW KAVYKA WITH=DOT;LOWER BLADE=SCISSORS;
LOWER FIVE EIGHTHS=BLOCK;LOWER HALF=BLOCK,CIRCLE;LOWER HALF INVERSE WHITE=CIRCLE;
LOWER HALF MEDIUM=SHADE;LOWER LEFT=CRAYON,PAINTBRUSH,PENCIL,TRIANGLE;LOWER LEFT BALLPOINT=PEN;
LOWER LEFT BLOCK DIAGONAL LOWER MIDDLE LEFT TO LOWER=CENTRE,RIGHT;
LOWER LEFT BLOCK DIAGONAL UPPER CENTRE TO LOWER=RIGHT;
LOWER LEFT BLOCK DIAGONAL UPPER CENTRE TO LOWER MIDDLE=RIGHT;
LOWER LEFT BLOCK DIAGONAL UPPER CENTRE TO UPPER MIDDLE=RIGHT;
LOWER LEFT BLOCK DIAGONAL UPPER LEFT TO LOWER=CENTRE;
LOWER LEFT BLOCK DIAGONAL UPPER LEFT TO LOWER MIDDLE=RIGHT;
LOWER LEFT BLOCK DIAGONAL UPPER LEFT TO UPPER MIDDLE=RIGHT;
LOWER LEFT BLOCK DIAGONAL UPPER MIDDLE LEFT TO LOWER=CENTRE,RIGHT;
LOWER LEFT BLOCK DIAGONAL UPPER MIDDLE LEFT TO LOWER MIDDLE=RIGHT;LOWER LEFT FOUNTAIN=PEN;
LOWER LEFT QUADRANT CIRCULAR=ARC;LOWER LEFT SEMICIRCULAR ANTICLOCKWISE=ARROW;
LOWER LEFT TRIANGULAR MEDIUM=SHADE;LOWER ONE EIGHTH=BLOCK;LOWER ONE QUARTER=BLOCK;
LOWER RIGHT=PENCIL,TRIANGLE;LOWER RIGHT BLOCK DIAGONAL LOWER CENTRE TO LOWER MIDDLE=RIGHT;
LOWER RIGHT BLOCK DIAGONAL LOWER CENTRE TO UPPER=RIGHT;
LOWER RIGHT BLOCK DIAGONAL LOWER CENTRE TO UPPER MIDDLE=RIGHT;
LOWER RIGHT BLOCK DIAGONAL LOWER LEFT TO LOWER MIDDLE=RIGHT;
LOWER RIGHT BLOCK DIAGONAL LOWER LEFT TO UPPER=CENTRE;
LOWER RIGHT BLOCK DIAGONAL LOWER LEFT TO UPPER MIDDLE=RIGHT;
LOWER RIGHT BLOCK DIAGONAL LOWER MIDDLE LEFT TO UPPER=CENTRE,RIGHT;
LOWER RIGHT BLOCK DIAGONAL LOWER MIDDLE LEFT TO UPPER MIDDLE=RIGHT;
LOWER RIGHT BLOCK DIAGONAL UPPER MIDDLE LEFT TO UPPER=CENTRE,RIGHT;LOWER RIGHT CORNER WITH=DOT;
LOWER RIGHT DROP-SHADOWED WHITE=SQUARE;LOWER RIGHT QUADRANT CIRCULAR=ARC;
LOWER RIGHT SEMICIRCULAR CLOCKWISE=ARROW;LOWER RIGHT SHADOWED WHITE=CIRCLE,SQUARE;
LOWER RIGHT TRIANGULAR MEDIUM=SHADE;LOWER SEVEN EIGHTHS=BLOCK;LOWER THREE EIGHTHS=BLOCK;
LOWER THREE QUARTERS=BLOCK;LOWER TRIANGULAR ONE QUARTER=BLOCK;LOZENGE DIVIDED BY HORIZONTAL=RULE;
LYCIAN LETTER=A,AN,B,BH,D,E,EN,G,H,I,J,K,KK,L,M,MM,N,NN,P,Q,R,S,T,TH,TT,U,W,X,Z;LYDIAN LETTER=A,AN,
B,C,D,E,EN,F,G,I,K,L,LY,M,N,NN,O,Q,R,S,SS,T,TT,U,V,Y;LYDIAN TRIANGULAR=MARK;LYING=FACE;MAGIC=WAND;
MAHAJANI ABBREVIATION=SIGN;MAHAJANI LETTER=A,BA,BHA,CA,CHA,DA,DDA,DDHA,DHA,E,GA,GHA,HA,I,JA,JHA,KA,
KHA,LA,MA,NA,NNA,NYA,O,PA,PHA,RA,RRA,SA,TA,THA,TTA,TTHA,U,VA;MAHAJANI LIGATURE=SHRI;
MAHAJANI SECTION=MARK;MAHAJANI SIGN=NUKTA;MAHJONG TILE=AUTUMN,BACK,BAMBOO,CHRYSANTHEMUM,JOKER,
ORCHID,PLUM,SPRING,SUMMER,WINTER;MAHJONG TILE EAST=WIND;MAHJONG TILE EIGHT OF=BAMBOOS,CHARACTERS,
CIRCLES;MAHJONG TILE FIVE OF=BAMBOOS,CHARACTERS,CIRCLES;MAHJONG TILE FOUR OF=BAMBOOS,CHARACTERS,
CIRCLES;MAHJONG TILE GREEN=DRAGON;MAHJONG TILE NINE OF=BAMBOOS,CHARACTERS,CIRCLES;
MAHJONG TILE NORTH=WIND;MAHJONG TILE ONE OF=BAMBOOS,CHARACTERS,CIRCLES;MAHJONG TILE RED=DRAGON;
MAHJONG TILE SEVEN OF=BAMBOOS,CHARACTERS,CIRCLES;MAHJONG TILE SIX OF=BAMBOOS,CHARACTERS,CIRCLES;
MAHJONG TILE SOUTH=WIND;MAHJONG TILE THREE OF=BAMBOOS,CHARACTERS,CIRCLES;
MAHJONG TILE TWO OF=BAMBOOS,CHARACTERS,CIRCLES;MAHJONG TILE WEST=WIND;MAHJONG TILE WHITE=DRAGON;
MAKASAR=ANGKA,PASSIMBANG;MAKASAR END OF=SECTION;MAKASAR LETTER=A,BA,CA,DA,GA,JA,KA,LA,MA,NA,NGA,
NYA,PA,RA,SA,TA,VA,YA;MAKASAR VOWEL SIGN=E,I,O,U;MALAYALAM AU LENGTH=MARK;MALAYALAM DATE=MARK;
MALAYALAM DIGIT=EIGHT,FIVE,FOUR,NINE,ONE,SEVEN,SIX,THREE,TWO,ZERO;MALAYALAM FRACTION ONE=EIGHTH,
FIFTH,FORTIETH,HALF,ONE-HUNDRED-AND-SIXTIETH,QUARTER,SIXTEENTH,TENTH,TWENTIETH;
MALAYALAM FRACTION THREE=EIGHTIETHS,QUARTERS,SIXTEENTHS,TWENTIETHS;MALAYALAM LETTER=A,AA,AI,AU,BA,
BHA,CA,CHA,DA,DDA,DDHA,DHA,E,EE,GA,GHA,HA,I,II,JA,JHA,KA,KHA,LA,LLA,LLLA,MA,NA,NGA,NNA,NNNA,NYA,O,
OO,PA,PHA,RA,RRA,SA,SHA,SSA,TA,THA,TTA,TTHA,TTTA,U,UU,VA,YA;MALAYALAM LETTER ARCHAIC=II;
MALAYALAM LETTER CHILLU=K,L,LL,LLL,M,N,NN,RR,Y;MALAYALAM LETTER DOT=REPH;
MALAYALAM LETTER VEDIC=ANUSVARA;MALAYALAM LETTER VOCALIC=L,LL,R,RR;MALAYALAM NUMBER=TEN;
MALAYALAM NUMBER ONE=HUNDRED,THOUSAND;MALAYALAM SIGN=ANUSVARA,AVAGRAHA,CANDRABINDU,PARA,VIRAMA,
VISARGA;MALAYALAM SIGN CIRCULAR=VIRAMA;MALAYALAM SIGN COMBINING ANUSVARA=ABOVE;
MALAYALAM SIGN VERTICAL BAR=VIRAMA;MALAYALAM VOWEL SIGN=AA,AI,AU,E,EE,I,II,O,OO,U,UU;
MALAYALAM VOWEL SIGN VOCALIC=L,LL,R,RR;MALE=SIGN;MALE AND FEMALE=SIGN;MALE WITH STROKE=SIGN;
MALE WITH STROKE AND MALE AND FEMALE=SIGN;MALTESE=CROSS;MAN=DANCING;MAN AND WOMAN HOLDING=HANDS;
MAN IN=TUXEDO;MAN IN BUSINESS SUIT=LEVITATING;MAN WITH=TURBAN;MAN WITH GUA PI=MAO;MANAT=SIGN;
MANDAIC=PUNCTUATION;MANDAIC AFFRICATION=MARK;MANDAIC GEMINATION=MARK;MANDAIC LETTER=AB,AD,AG,AH,
AIN,AK,AKSA,AL,AM,AN,AP,AQ,AR,AS,ASH,ASZ,AT,ATT,AZ,DUSHENNA,HALQA,IN,IT,KAD,USHENNA;
MANDAIC VOCALIZATION=MARK;MANICHAEAN ABBREVIATION MARK=ABOVE,BELOW;MANICHAEAN LETTER=AAYIN,ALEPH,
AYIN,BETH,BHETH,DALETH,DHAMEDH,FE,GHIMEL,GIMEL,HE,HETH,JAYIN,JHAYIN,KAPH,KHAPH,LAMEDH,MEM,NUN,PE,
QHOPH,QOPH,RESH,SADHE,SAMEKH,SHIN,SSHIN,TAW,TETH,THAMEDH,WAW,XAPH,XOPH,YODH,ZAYIN,ZHAYIN;
MANICHAEAN NUMBER=FIVE,ONE,TEN,TWENTY;MANICHAEAN NUMBER ONE=HUNDRED;MANICHAEAN PUNCTUATION=DOT,
FLEURON,STAR;MANICHAEAN PUNCTUATION DOT WITHIN=DOT;MANICHAEAN PUNCTUATION DOUBLE DOT WITHIN=DOT;
MANICHAEAN PUNCTUATION LINE=FILLER;MANICHAEAN PUNCTUATION TWO=DOTS;MANICHAEAN SIGN=UD;MANS=SHOE;
MANTELPIECE=CLOCK;MANUAL=WHEELCHAIR;MAP SYMBOL FOR=LIGHTHOUSE;MAPLE=LEAF;MARCHEN HEAD=MARK;
MARCHEN LETTER=-A,A,BA,CA,CHA,DA,DZA,GA,HA,JA,KA,KHA,LA,MA,NA,NGA,NYA,PA,PHA,RA,SA,SHA,TA,THA,TSA,
TSHA,WA,YA,ZA,ZHA;MARCHEN MARK=SHAD;MARCHEN SIGN=ANUSVARA,CANDRABINDU;MARCHEN SUBJOINED LETTER=A,
BA,CA,CHA,DA,DZA,GA,HA,JA,KA,KHA,LA,MA,NA,NGA,NYA,PA,PHA,RA,SA,SHA,TA,THA,TSA,TSHA,WA,YA,ZA,ZHA;
MARCHEN VOWEL SIGN=AA,E,I,O,U;MARRIAGE=SYMBOL;MARTIAL ARTS=UNIFORM;MASARAM GONDI=RA-KARA,REPHA,
VIRAMA;MASARAM GONDI DIGIT=EIGHT,FIVE,FOUR,NINE,ONE,SEVEN,SIX,THREE,TWO,ZERO;
MASARAM GONDI LETTER=A,AA,AI,AU,BA,BHA,CA,CHA,DA,DDA,DDHA,DHA,E,GA,GHA,HA,I,II,JA,JHA,JNYA,KA,KHA,
KSSA,LA,LLA,MA,NA,NGA,NNA,NYA,O,PA,PHA,RA,SA,SHA,SSA,TA,THA,TRA,TTA,TTHA,U,UU,VA,YA;
MASARAM GONDI SIGN=ANUSVARA,CANDRA,HALANTA,NUKTA,VISARGA;MASARAM GONDI VOWEL SIGN=AA,AI,AU,E,I,II,
O,U,UU;MASARAM GONDI VOWEL SIGN VOCALIC=R;MASCULINE ORDINAL=INDICATOR;MASK WORK=SYMBOL;MASU=MARK;
MATE=DRINK;MATHEMATICAL BOLD=NABLA;MATHEMATICAL BOLD CAPITAL=A,ALPHA,B,BETA,C,CHI,D,DELTA,DIGAMMA,
E,EPSILON,ETA,F,G,GAMMA,H,I,IOTA,J,K,KAPPA,L,LAMDA,M,MU,N,NU,O,OMEGA,OMICRON,P,PHI,PI,PSI,Q,R,RHO,
S,SIGMA,T,TAU,THETA,U,UPSILON,V,W,X,XI,Y,Z,ZETA;MATHEMATICAL BOLD CAPITAL THETA=SYMBOL;
MATHEMATICAL BOLD DIGIT=EIGHT,FIVE,FOUR,NINE,ONE,SEVEN,SIX,THREE,TWO,ZERO;
MATHEMATICAL BOLD EPSILON=SYMBOL;MATHEMATICAL BOLD FRAKTUR CAPITAL=A,B,C,D,E,F,G,H,I,J,K,L,M,N,O,P,
Q,R,S,T,U,V,W,X,Y,Z;MATHEMATICAL BOLD FRAKTUR SMALL=A,B,C,D,E,F,G,H,I,J,K,L,M,N,O,P,Q,R,S,T,U,V,W,
X,Y,Z;MATHEMATICAL BOLD ITALIC=NABLA;MATHEMATICAL BOLD ITALIC CAPITAL=A,ALPHA,B,BETA,C,CHI,D,DELTA,
E,EPSILON,ETA,F,G,GAMMA,H,I,IOTA,J,K,KAPPA,L,LAMDA,M,MU,N,NU,O,OMEGA,OMICRON,P,PHI,PI,PSI,Q,R,RHO,
S,SIGMA,T,TAU,THETA,U,UPSILON,V,W,X,XI,Y,Z,ZETA;MATHEMATICAL BOLD ITALIC CAPITAL THETA=SYMBOL;
MATHEMATICAL BOLD ITALIC EPSILON=SYMBOL;MATHEMATICAL BOLD ITALIC KAPPA=SYMBOL;
MATHEMATICAL BOLD ITALIC PARTIAL=DIFFERENTIAL;MATHEMATICAL BOLD ITALIC PHI=SYMBOL;
MATHEMATICAL BOLD ITALIC PI=SYMBOL;MATHEMATICAL BOLD ITALIC RHO=SYMBOL;
MATHEMATICAL BOLD ITALIC SMALL=A,ALPHA,B,BETA,C,CHI,D,DELTA,E,EPSILON,ETA,F,G,GAMMA,H,I,IOTA,J,K,
KAPPA,L,LAMDA,M,MU,N,NU,O,OMEGA,OMICRON,P,PHI,PI,PSI,Q,R,RHO,S,SIGMA,T,TAU,THETA,U,UPSILON,V,W,X,
XI,Y,Z,ZETA;MATHEMATICAL BOLD ITALIC SMALL FINAL=SIGMA;MATHEMATICAL BOLD ITALIC THETA=SYMBOL;
MATHEMATICAL BOLD KAPPA=SYMBOL;MATHEMATICAL BOLD PARTIAL=DIFFERENTIAL;MATHEMATICAL BOLD PHI=SYMBOL;
MATHEMATICAL BOLD PI=SYMBOL;MATHEMATICAL BOLD RHO=SYMBOL;MATHEMATICAL BOLD SCRIPT CAPITAL=A,B,C,D,
E,F,G,H,I,J,K,L,M,N,O,P,Q,R,S,T,U,V,W,X,Y,Z;MATHEMATICAL BOLD SCRIPT SMALL=A,B,C,D,E,F,G,H,I,J,K,L,
M,N,O,P,Q,R,S,T,U,V,W,X,Y,Z;MATHEMATICAL BOLD SMALL=A,ALPHA,B,BETA,C,CHI,D,DELTA,DIGAMMA,E,EPSILON,
ETA,F,G,GAMMA,H,I,IOTA,J,K,KAPPA,L,LAMDA,M,MU,N,NU,O,OMEGA,OMICRON,P,PHI,PI,PSI,Q,R,RHO,S,SIGMA,T,
TAU,THETA,U,UPSILON,V,W,X,XI,Y,Z,ZETA;MATHEMATICAL BOLD SMALL FINAL=SIGMA;
MATHEMATICAL BOLD THETA=SYMBOL;MATHEMATICAL DOUBLE-STRUCK CAPITAL=A,B,D,E,F,G,I,J,K,L,M,O,S,T,U,V,
W,X,Y;MATHEMATICAL DOUBLE-STRUCK DIGIT=EIGHT,FIVE,FOUR,NINE,ONE,SEVEN,SIX,THREE,TWO,ZERO;
MATHEMATICAL DOUBLE-STRUCK SMALL=A,B,C,D,E,F,G,H,I,J,K,L,M,N,O,P,Q,R,S,T,U,V,W,X,Y,Z;
MATHEMATICAL FALLING=DIAGONAL;MATHEMATICAL FRAKTUR CAPITAL=A,B,D,E,F,G,J,K,L,M,N,O,P,Q,S,T,U,V,W,X,
Y;MATHEMATICAL FRAKTUR SMALL=A,B,C,D,E,F,G,H,I,J,K,L,M,N,O,P,Q,R,S,T,U,V,W,X,Y,Z;
MATHEMATICAL ITALIC=NABLA;MATHEMATICAL ITALIC CAPITAL=A,ALPHA,B,BETA,C,CHI,D,DELTA,E,EPSILON,ETA,F,
G,GAMMA,H,I,IOTA,J,K,KAPPA,L,LAMDA,M,MU,N,NU,O,OMEGA,OMICRON,P,PHI,PI,PSI,Q,R,RHO,S,SIGMA,T,TAU,
THETA,U,UPSILON,V,W,X,XI,Y,Z,ZETA;MATHEMATICAL ITALIC CAPITAL THETA=SYMBOL;
MATHEMATICAL ITALIC EPSILON=SYMBOL;MATHEMATICAL ITALIC KAPPA=SYMBOL;
MATHEMATICAL ITALIC PARTIAL=DIFFERENTIAL;MATHEMATICAL ITALIC PHI=SYMBOL;
MATHEMATICAL ITALIC PI=SYMBOL;MATHEMATICAL ITALIC RHO=SYMBOL;MATHEMATICAL ITALIC SMALL=A,ALPHA,B,
BETA,C,CHI,D,DELTA,E,EPSILON,ETA,F,G,GAMMA,I,IOTA,J,K,KAPPA,L,LAMDA,M,MU,N,NU,O,OMEGA,OMICRON,P,
PHI,PI,PSI,Q,R,RHO,S,SIGMA,T,TAU,THETA,U,UPSILON,V,W,X,XI,Y,Z,ZETA;
MATHEMATICAL ITALIC SMALL DOTLESS=I,J;MATHEMATICAL ITALIC SMALL FINAL=SIGMA;
MATHEMATICAL ITALIC THETA=SYMBOL;MATHEMATICAL LEFT ANGLE=BRACKET;
MATHEMATICAL LEFT DOUBLE ANGLE=BRACKET;MATHEMATICAL LEFT FLATTENED=PARENTHESIS;
MATHEMATICAL LEFT WHITE SQUARE=BRACKET;MATHEMATICAL LEFT WHITE TORTOISE SHELL=BRACKET;
MATHEMATICAL MONOSPACE CAPITAL=A,B,C,D,E,F,G,H,I,J,K,L,M,N,O,P,Q,R,S,T,U,V,W,X,Y,Z;
MATHEMATICAL MONOSPACE DIGIT=EIGHT,FIVE,FOUR,NINE,ONE,SEVEN,SIX,THREE,TWO,ZERO;
MATHEMATICAL MONOSPACE SMALL=A,B,C,D,E,F,G,H,I,J,K,L,M,N,O,P,Q,R,S,T,U,V,W,X,Y,Z;
MATHEMATICAL RIGHT ANGLE=BRACKET;MATHEMATICAL RIGHT DOUBLE ANGLE=BRACKET;
MATHEMATICAL RIGHT FLATTENED=PARENTHESIS;MATHEMATICAL RIGHT WHITE SQUARE=BRACKET;
MATHEMATICAL RIGHT WHITE TORTOISE SHELL=BRACKET;MATHEMATICAL RISING=DIAGONAL;
MATHEMATICAL SANS-SERIF BOLD=NABLA;MATHEMATICAL SANS-SERIF BOLD CAPITAL=A,ALPHA,B,BETA,C,CHI,D,
DELTA,E,EPSILON,ETA,F,G,GAMMA,H,I,IOTA,J,K,KAPPA,L,LAMDA,M,MU,N,NU,O,OMEGA,OMICRON,P,PHI,PI,PSI,Q,
R,RHO,S,SIGMA,T,TAU,THETA,U,UPSILON,V,W,X,XI,Y,Z,ZETA;
MATHEMATICAL SANS-SERIF BOLD CAPITAL THETA=SYMBOL;MATHEMATICAL SANS-SERIF BOLD DIGIT=EIGHT,FIVE,
FOUR,NINE,ONE,SEVEN,SIX,THREE,TWO,ZERO;MATHEMATICAL SANS-SERIF BOLD EPSILON=SYMBOL;
MATHEMATICAL SANS-SERIF BOLD ITALIC=NABLA;MATHEMATICAL SANS-SERIF BOLD ITALIC CAPITAL=A,ALPHA,B,
BETA,C,CHI,D,DELTA,E,EPSILON,ETA,F,G,GAMMA,H,I,IOTA,J,K,KAPPA,L,LAMDA,M,MU,N,NU,O,OMEGA,OMICRON,P,
PHI,PI,PSI,Q,R,RHO,S,SIGMA,T,TAU,THETA,U,UPSILON,V,W,X,XI,Y,Z,ZETA;
MATHEMATICAL SANS-SERIF BOLD ITALIC CAPITAL THETA=SYMBOL;
MATHEMATICAL SANS-SERIF BOLD ITALIC EPSILON=SYMBOL;
MATHEMATICAL SANS-SERIF BOLD ITALIC KAPPA=SYMBOL;
MATHEMATICAL SANS-SERIF BOLD ITALIC PARTIAL=DIFFERENTIAL;
MATHEMATICAL SANS-SERIF BOLD ITALIC PHI=SYMBOL;MATHEMATICAL SANS-SERIF BOLD ITALIC PI=SYMBOL;
MATHEMATICAL SANS-SERIF BOLD ITALIC RHO=SYMBOL;MATHEMATICAL SANS-SERIF BOLD ITALIC SMALL=A,ALPHA,B,
BETA,C,CHI,D,DELTA,E,EPSILON,ETA,F,G,GAMMA,H,I,IOTA,J,K,KAPPA,L,LAMDA,M,MU,N,NU,O,OMEGA,OMICRON,P,
PHI,PI,PSI,Q,R,RHO,S,SIGMA,T,TAU,THETA,U,UPSILON,V,W,X,XI,Y,Z,ZETA;
MATHEMATICAL SANS-SERIF BOLD ITALIC SMALL FINAL=SIGMA;
MATHEMATICAL SANS-SERIF BOLD ITALIC THETA=SYMBOL;MATHEMATICAL SANS-SERIF BOLD KAPPA=SYMBOL;
MATHEMATICAL SANS-SERIF BOLD PARTIAL=DIFFERENTIAL;MATHEMATICAL SANS-SERIF BOLD PHI=SYMBOL;
MATHEMATICAL SANS-SERIF BOLD PI=SYMBOL;MATHEMATICAL SANS-SERIF BOLD RHO=SYMBOL;
MATHEMATICAL SANS-SERIF BOLD SMALL=A,ALPHA,B,BETA,C,CHI,D,DELTA,E,EPSILON,ETA,F,G,GAMMA,H,I,IOTA,J,
K,KAPPA,L,LAMDA,M,MU,N,NU,O,OMEGA,OMICRON,P,PHI,PI,PSI,Q,R,RHO,S,SIGMA,T,TAU,THETA,U,UPSILON,V,W,X,
XI,Y,Z,ZETA;MATHEMATICAL SANS-SERIF BOLD SMALL FINAL=SIGMA;
MATHEMATICAL SANS-SERIF BOLD THETA=SYMBOL;MATHEMATICAL SANS-SERIF CAPITAL=A,B,C,D,E,F,G,H,I,J,K,L,
M,N,O,P,Q,R,S,T,U,V,W,X,Y,Z;MATHEMATICAL SANS-SERIF DIGIT=EIGHT,FIVE,FOUR,NINE,ONE,SEVEN,SIX,THREE,
TWO,ZERO;MATHEMATICAL SANS-SERIF ITALIC CAPITAL=A,B,C,D,E,F,G,H,I,J,K,L,M,N,O,P,Q,R,S,T,U,V,W,X,Y,
Z;MATHEMATICAL SANS-SERIF ITALIC SMALL=A,B,C,D,E,F,G,H,I,J,K,L,M,N,O,P,Q,R,S,T,U,V,W,X,Y,Z;
MATHEMATICAL SANS-SERIF SMALL=A,B,C,D,E,F,G,H,I,J,K,L,M,N,O,P,Q,R,S,T,U,V,W,X,Y,Z;
MATHEMATICAL SCRIPT CAPITAL=A,C,D,G,J,K,N,O,P,Q,S,T,U,V,W,X,Y,Z;MATHEMATICAL SCRIPT SMALL=A,B,C,D,
F,H,I,J,K,L,M,N,P,Q,R,S,T,U,V,W,X,Y,Z;MAYAN NUMERAL=EIGHT,EIGHTEEN,ELEVEN,FIFTEEN,FIVE,FOUR,
FOURTEEN,NINE,NINETEEN,ONE,SEVEN,SEVENTEEN,SIX,SIXTEEN,TEN,THIRTEEN,THREE,TWELVE,TWO,ZERO;
MEASURED=ANGLE,BY;MEASURED ANGLE OPENING=LEFT;
MEASURED ANGLE WITH OPEN ARM ENDING IN ARROW POINTING DOWN AND=LEFT,RIGHT;
MEASURED ANGLE WITH OPEN ARM ENDING IN ARROW POINTING LEFT AND=DOWN,UP;
MEASURED ANGLE WITH OPEN ARM ENDING IN ARROW POINTING RIGHT AND=DOWN,UP;
MEASURED ANGLE WITH OPEN ARM ENDING IN ARROW POINTING UP AND=LEFT,RIGHT;
MEASURED RIGHT ANGLE WITH=DOT;MEAT ON=BONE;MECHANICAL=ARM,LEG;MEDEFAIDRIN=COMMA;
MEDEFAIDRIN CAPITAL LETTER=A,AI,ATIU,B,C,D,E,F,G,H,HP,I,J,K,KP,L,M,N,NG,NY,O,OE,P,Q,R,S,T,U,V,W,X,
Y,YU,Z;MEDEFAIDRIN DIGIT=EIGHT,FIVE,FOUR,NINE,ONE,SEVEN,SIX,THREE,TWO,ZERO;
MEDEFAIDRIN DIGIT ONE ALTERNATE=FORM;MEDEFAIDRIN DIGIT THREE ALTERNATE=FORM;
MEDEFAIDRIN DIGIT TWO ALTERNATE=FORM;MEDEFAIDRIN EXCLAMATION=OH;MEDEFAIDRIN FULL=STOP;
MEDEFAIDRIN NUMBER=EIGHTEEN,ELEVEN,FIFTEEN,FOURTEEN,NINETEEN,SEVENTEEN,SIXTEEN,TEN,THIRTEEN,TWELVE;
MEDEFAIDRIN SMALL LETTER=A,AI,ATIU,B,C,D,E,F,G,H,HP,I,J,K,KP,L,M,N,NG,NY,O,OE,P,Q,R,S,T,U,V,W,X,Y,
YU,Z;MEDEFAIDRIN SYMBOL=AIVA;MEDIEVAL=COMMA;MEDIEVAL EXCLAMATION=MARK;MEDIEVAL QUESTION=MARK;
MEDIUM=SALTIRE,SHADE;MEDIUM BLACK=CIRCLE;MEDIUM BOLD WHITE=CIRCLE;MEDIUM EIGHT POINTED BLACK=STAR;
MEDIUM EIGHT SPOKED=ASTERISK;MEDIUM FIVE SPOKED=ASTERISK;
MEDIUM FLATTENED LEFT PARENTHESIS=ORNAMENT;MEDIUM FLATTENED RIGHT PARENTHESIS=ORNAMENT;
MEDIUM FOUR POINTED BLACK=STAR;MEDIUM FOUR POINTED PINWHEEL=STAR;MEDIUM GREEK=CROSS;
MEDIUM LEFT CURLY BRACKET=ORNAMENT;MEDIUM LEFT PARENTHESIS=ORNAMENT;
MEDIUM LEFT-POINTING ANGLE BRACKET=ORNAMENT;MEDIUM MATHEMATICAL=SPACE;
MEDIUM RIGHT CURLY BRACKET=ORNAMENT;MEDIUM RIGHT PARENTHESIS=ORNAMENT;
MEDIUM RIGHT-POINTING ANGLE BRACKET=ORNAMENT;MEDIUM SIX POINTED BLACK=STAR;
MEDIUM SIX SPOKED=ASTERISK;MEDIUM SMALL WHITE=CIRCLE;MEDIUM THREE POINTED BLACK=STAR;
MEDIUM THREE POINTED PINWHEEL=STAR;MEDIUM VERTICAL=BAR;MEDIUM WHITE=CIRCLE,SQUARE;
MEETEI MAYEK=ANJI,CHEIKHAN,CHEIKHEI,VIRAMA;MEETEI MAYEK AHANG=KHUDAM;MEETEI MAYEK APUN=IYEK;
MEETEI MAYEK DIGIT=EIGHT,FIVE,FOUR,NINE,ONE,SEVEN,SIX,THREE,TWO,ZERO;MEETEI MAYEK LETTER=ATIYA,BA,
BHAM,CHA,CHIL,DDA,DDHA,DHOU,DIL,E,GHOU,GOK,HUK,I,JHAM,JIL,KHOU,KOK,LAI,MIT,NA,NGOU,NNA,NYA,O,PA,
PHAM,RAI,SAM,SHA,SSA,THOU,TIL,TTA,TTHA,UN,WAI,YANG;MEETEI MAYEK LETTER I=LONSUM;
MEETEI MAYEK LETTER KOK=LONSUM;MEETEI MAYEK LETTER LAI=LONSUM;MEETEI MAYEK LETTER MIT=LONSUM;
MEETEI MAYEK LETTER NA=LONSUM;MEETEI MAYEK LETTER NGOU=LONSUM;MEETEI MAYEK LETTER PA=LONSUM;
MEETEI MAYEK LETTER TIL=LONSUM;MEETEI MAYEK LUM=IYEK;MEETEI MAYEK SYLLABLE REPETITION=MARK;
MEETEI MAYEK VOWEL SIGN=AAI,AAU,ANAP,AU,CHEINAP,II,INAP,NUNG,ONAP,SOUNAP,UNAP,UU,VISARGA,YENAP;
MEETEI MAYEK WORD REPETITION=MARK;MELTING=FACE;MENDE KIKAKUI COMBINING NUMBER=HUNDREDS,MILLIONS,
TEENS,TENS,THOUSANDS;MENDE KIKAKUI COMBINING NUMBER HUNDRED=THOUSANDS;
MENDE KIKAKUI COMBINING NUMBER TEN=THOUSANDS;MENDE KIKAKUI DIGIT=EIGHT,FIVE,FOUR,NINE,ONE,SEVEN,
SIX,THREE,TWO;MENDE KIKAKUI SYLLABLE M001=KI;MENDE KIKAKUI SYLLABLE M002=KA;
MENDE KIKAKUI SYLLABLE M003=KU;MENDE KIKAKUI SYLLABLE M004=WI;MENDE KIKAKUI SYLLABLE M005=WA;
MENDE KIKAKUI SYLLABLE M006=WU;MENDE KIKAKUI SYLLABLE M007=MIN;MENDE KIKAKUI SYLLABLE M008=MAN;
MENDE KIKAKUI SYLLABLE M009=MUN;MENDE KIKAKUI SYLLABLE M010=BI;MENDE KIKAKUI SYLLABLE M011=BA;
MENDE KIKAKUI SYLLABLE M012=BU;MENDE KIKAKUI SYLLABLE M013=I;MENDE KIKAKUI SYLLABLE M014=A;
MENDE KIKAKUI SYLLABLE M015=U;MENDE KIKAKUI SYLLABLE M016=DI;MENDE KIKAKUI SYLLABLE M017=DA;
MENDE KIKAKUI SYLLABLE M018=DU;MENDE KIKAKUI SYLLABLE M019=SI;MENDE KIKAKUI SYLLABLE M020=SA;
MENDE KIKAKUI SYLLABLE M021=SU;MENDE KIKAKUI SYLLABLE M022=TI;MENDE KIKAKUI SYLLABLE M023=TA;
MENDE KIKAKUI SYLLABLE M024=TU;MENDE KIKAKUI SYLLABLE M025=LI;MENDE KIKAKUI SYLLABLE M026=LA;
MENDE KIKAKUI SYLLABLE M027=LU;MENDE KIKAKUI SYLLABLE M028=JI;MENDE KIKAKUI SYLLABLE M029=JA;
MENDE KIKAKUI SYLLABLE M030=JU;MENDE KIKAKUI SYLLABLE M031=YI;MENDE KIKAKUI SYLLABLE M032=YA;
MENDE KIKAKUI SYLLABLE M033=YU;MENDE KIKAKUI SYLLABLE M034=FI;MENDE KIKAKUI SYLLABLE M035=FA;
MENDE KIKAKUI SYLLABLE M036=FU;MENDE KIKAKUI SYLLABLE M037=NIN;MENDE KIKAKUI SYLLABLE M038=NAN;
MENDE KIKAKUI SYLLABLE M039=NUN;MENDE KIKAKUI SYLLABLE M040=HEE;MENDE KIKAKUI SYLLABLE M041=HA;
MENDE KIKAKUI SYLLABLE M042=HOO;MENDE KIKAKUI SYLLABLE M043=NGGA;MENDE KIKAKUI SYLLABLE M044=KPEE;
MENDE KIKAKUI SYLLABLE M045=WO;MENDE KIKAKUI SYLLABLE M046=HUAN;MENDE KIKAKUI SYLLABLE M047=MBEE;
MENDE KIKAKUI SYLLABLE M048=KO;MENDE KIKAKUI SYLLABLE M049=WVA;MENDE KIKAKUI SYLLABLE M050=PU;
MENDE KIKAKUI SYLLABLE M051=PE;MENDE KIKAKUI SYLLABLE M052=HEN;MENDE KIKAKUI SYLLABLE M053=HIN;
MENDE KIKAKUI SYLLABLE M054=LOO;MENDE KIKAKUI SYLLABLE M055=TE;MENDE KIKAKUI SYLLABLE M056=GBA;
MENDE KIKAKUI SYLLABLE M057=NGON;MENDE KIKAKUI SYLLABLE M058=NYAN;MENDE KIKAKUI SYLLABLE M059=MEN;
MENDE KIKAKUI SYLLABLE M060=NYON;MENDE KIKAKUI SYLLABLE M061=WVI;MENDE KIKAKUI SYLLABLE M062=MBA;
MENDE KIKAKUI SYLLABLE M063=JO;MENDE KIKAKUI SYLLABLE M064=NDO;MENDE KIKAKUI SYLLABLE M065=KEE;
MENDE KIKAKUI SYLLABLE M066=PO;MENDE KIKAKUI SYLLABLE M067=NDOO;MENDE KIKAKUI SYLLABLE M068=PI;
MENDE KIKAKUI SYLLABLE M069=TO;MENDE KIKAKUI SYLLABLE M070=GBO;MENDE KIKAKUI SYLLABLE M071=GBOO;
MENDE KIKAKUI SYLLABLE M072=MBE;MENDE KIKAKUI SYLLABLE M073=LE;MENDE KIKAKUI SYLLABLE M074=KPU;
MENDE KIKAKUI SYLLABLE M075=FE;MENDE KIKAKUI SYLLABLE M076=KOO;MENDE KIKAKUI SYLLABLE M077=VO;
MENDE KIKAKUI SYLLABLE M078=FEE;MENDE KIKAKUI SYLLABLE M079=SO;MENDE KIKAKUI SYLLABLE M080=YE;
MENDE KIKAKUI SYLLABLE M081=PEE;MENDE KIKAKUI SYLLABLE M082=NGGU;MENDE KIKAKUI SYLLABLE M083=HEEI;
MENDE KIKAKUI SYLLABLE M084=LEE;MENDE KIKAKUI SYLLABLE M085=VE;
MENDE KIKAKUI SYLLABLE M086 LONG=NGGE;MENDE KIKAKUI SYLLABLE M087=HUN;
MENDE KIKAKUI SYLLABLE M088=FO;MENDE KIKAKUI SYLLABLE M089=DEE;MENDE KIKAKUI SYLLABLE M090=NGGI;
MENDE KIKAKUI SYLLABLE M091=TEE;MENDE KIKAKUI SYLLABLE M092=KPA;MENDE KIKAKUI SYLLABLE M093=GBEE;
MENDE KIKAKUI SYLLABLE M094=MON;MENDE KIKAKUI SYLLABLE M095=KE;MENDE KIKAKUI SYLLABLE M096=HE;
MENDE KIKAKUI SYLLABLE M097=BE;MENDE KIKAKUI SYLLABLE M098=NYEN;MENDE KIKAKUI SYLLABLE M099=PA;
MENDE KIKAKUI SYLLABLE M100=E;MENDE KIKAKUI SYLLABLE M101=FAN;MENDE KIKAKUI SYLLABLE M102=POO;
MENDE KIKAKUI SYLLABLE M103=BOO;MENDE KIKAKUI SYLLABLE M104=TOO;
MENDE KIKAKUI SYLLABLE M105 LONG=MBOO;MENDE KIKAKUI SYLLABLE M106 LONG=NGGOO;
MENDE KIKAKUI SYLLABLE M107=GBE;MENDE KIKAKUI SYLLABLE M108=KPE;MENDE KIKAKUI SYLLABLE M109=YEE;
MENDE KIKAKUI SYLLABLE M110 LONG=LE;MENDE KIKAKUI SYLLABLE M111=GA;
MENDE KIKAKUI SYLLABLE M112=KPOO;MENDE KIKAKUI SYLLABLE M113=JE;MENDE KIKAKUI SYLLABLE M114=WOO;
MENDE KIKAKUI SYLLABLE M115=NGGEE;MENDE KIKAKUI SYLLABLE M116=SE;MENDE KIKAKUI SYLLABLE M117=NEN;
MENDE KIKAKUI SYLLABLE M118=WE;MENDE KIKAKUI SYLLABLE M119=NDE;MENDE KIKAKUI SYLLABLE M120=NGGO;
MENDE KIKAKUI SYLLABLE M121=YO;MENDE KIKAKUI SYLLABLE M122=MBU;MENDE KIKAKUI SYLLABLE M123=NDI;
MENDE KIKAKUI SYLLABLE M124=GBI;MENDE KIKAKUI SYLLABLE M125=NDU;MENDE KIKAKUI SYLLABLE M126=WEE;
MENDE KIKAKUI SYLLABLE M127=NGGUA;MENDE KIKAKUI SYLLABLE M128=HOOU;MENDE KIKAKUI SYLLABLE M129=NDA;
MENDE KIKAKUI SYLLABLE M130=HAN;MENDE KIKAKUI SYLLABLE M131=IN;MENDE KIKAKUI SYLLABLE M132=KPI;
MENDE KIKAKUI SYLLABLE M133=FOO;MENDE KIKAKUI SYLLABLE M134=NJOO;MENDE KIKAKUI SYLLABLE M135=IN;
MENDE KIKAKUI SYLLABLE M136=SOO;MENDE KIKAKUI SYLLABLE M137=EI;MENDE KIKAKUI SYLLABLE M138=BO;
MENDE KIKAKUI SYLLABLE M139=WVE;MENDE KIKAKUI SYLLABLE M140=HO;MENDE KIKAKUI SYLLABLE M141=YOO;
MENDE KIKAKUI SYLLABLE M142 LONG=MBO;MENDE KIKAKUI SYLLABLE M143=WEI;
MENDE KIKAKUI SYLLABLE M144=VOO;MENDE KIKAKUI SYLLABLE M145=MBI;MENDE KIKAKUI SYLLABLE M146=NGGE;
MENDE KIKAKUI SYLLABLE M147=O;MENDE KIKAKUI SYLLABLE M148=GBU;MENDE KIKAKUI SYLLABLE M149=NJEE;
MENDE KIKAKUI SYLLABLE M150=BEE;MENDE KIKAKUI SYLLABLE M151=VU;MENDE KIKAKUI SYLLABLE M152=NJA;
MENDE KIKAKUI SYLLABLE M153=LO;MENDE KIKAKUI SYLLABLE M154=MUAN;MENDE KIKAKUI SYLLABLE M155=GI;
MENDE KIKAKUI SYLLABLE M156=NGGOO;MENDE KIKAKUI SYLLABLE M157=JEE;MENDE KIKAKUI SYLLABLE M158=KPO;
MENDE KIKAKUI SYLLABLE M159=NGGAA;MENDE KIKAKUI SYLLABLE M160=JOO;
MENDE KIKAKUI SYLLABLE M161 LONG=MBE;MENDE KIKAKUI SYLLABLE M162=SEE;
MENDE KIKAKUI SYLLABLE M163=EE;MENDE KIKAKUI SYLLABLE M164=NYIN;MENDE KIKAKUI SYLLABLE M165=OO;
MENDE KIKAKUI SYLLABLE M166=GUEI;MENDE KIKAKUI SYLLABLE M167=GUAN;MENDE KIKAKUI SYLLABLE M168=GU;
MENDE KIKAKUI SYLLABLE M169=NON;MENDE KIKAKUI SYLLABLE M170=NYUN;MENDE KIKAKUI SYLLABLE M171=RA;
MENDE KIKAKUI SYLLABLE M172=MBOO;MENDE KIKAKUI SYLLABLE M173=VEE;MENDE KIKAKUI SYLLABLE M174=MBO;
MENDE KIKAKUI SYLLABLE M175 LONG=JO;MENDE KIKAKUI SYLLABLE M176=HI;
MENDE KIKAKUI SYLLABLE M177=NGUAN;MENDE KIKAKUI SYLLABLE M178=EN;MENDE KIKAKUI SYLLABLE M179=KUA;
MENDE KIKAKUI SYLLABLE M180=DOO;MENDE KIKAKUI SYLLABLE M181=DO;MENDE KIKAKUI SYLLABLE M182=VI;
MENDE KIKAKUI SYLLABLE M183 LONG=NGGO;MENDE KIKAKUI SYLLABLE M184=NGEN;
MENDE KIKAKUI SYLLABLE M185=VA;MENDE KIKAKUI SYLLABLE M186=HU;MENDE KIKAKUI SYLLABLE M187=MBUU;
MENDE KIKAKUI SYLLABLE M188=MBEE;MENDE KIKAKUI SYLLABLE M189=MUEN;MENDE KIKAKUI SYLLABLE M190=GEE;
MENDE KIKAKUI SYLLABLE M191=NDEE;MENDE KIKAKUI SYLLABLE M192=NJU;MENDE KIKAKUI SYLLABLE M193=HON;
MENDE KIKAKUI SYLLABLE M194=WUI;MENDE KIKAKUI SYLLABLE M195=AN;MENDE KIKAKUI SYLLABLE M196=SIA;
MENDE KIKAKUI SYLLABLE M197=FUA;MENORAH WITH NINE=BRANCHES;MENS=SYMBOL;
MEROITIC CURSIVE FRACTION EIGHT=TWELFTHS;MEROITIC CURSIVE FRACTION ELEVEN=TWELFTHS;
MEROITIC CURSIVE FRACTION FIVE=TWELFTHS;MEROITIC CURSIVE FRACTION FOUR=TWELFTHS;
MEROITIC CURSIVE FRACTION NINE=TWELFTHS;MEROITIC CURSIVE FRACTION ONE=HALF,TWELFTH;
MEROITIC CURSIVE FRACTION SEVEN=TWELFTHS;MEROITIC CURSIVE FRACTION SIX=TWELFTHS;
MEROITIC CURSIVE FRACTION TEN=TWELFTHS;MEROITIC CURSIVE FRACTION THREE=TWELFTHS;
MEROITIC CURSIVE FRACTION TWO=TWELFTHS;MEROITIC CURSIVE LETTER=A,BA,DA,E,HHA,I,KA,KHA,LA,MA,NA,NE,
O,PA,QA,RA,SA,SE,TA,TE,TO,WA,YA;MEROITIC CURSIVE LETTER ARCHAIC=SA;MEROITIC CURSIVE LOGOGRAM=IMN,
RMT;MEROITIC CURSIVE NUMBER=EIGHT,FIFTY,FIVE,FORTY,FOUR,NINE,ONE,SEVEN,SEVENTY,SIX,SIXTY,TEN,
THIRTY,THREE,TWENTY,TWO;MEROITIC CURSIVE NUMBER EIGHT=HUNDRED,THOUSAND;
MEROITIC CURSIVE NUMBER EIGHT HUNDRED=THOUSAND;MEROITIC CURSIVE NUMBER EIGHTY=THOUSAND;
MEROITIC CURSIVE NUMBER FIFTY=THOUSAND;MEROITIC CURSIVE NUMBER FIVE=HUNDRED,THOUSAND;
MEROITIC CURSIVE NUMBER FIVE HUNDRED=THOUSAND;MEROITIC CURSIVE NUMBER FORTY=THOUSAND;
MEROITIC CURSIVE NUMBER FOUR=HUNDRED,THOUSAND;MEROITIC CURSIVE NUMBER FOUR HUNDRED=THOUSAND;
MEROITIC CURSIVE NUMBER NINE=HUNDRED,THOUSAND;MEROITIC CURSIVE NUMBER NINE HUNDRED=THOUSAND;
MEROITIC CURSIVE NUMBER NINETY=THOUSAND;MEROITIC CURSIVE NUMBER ONE=HUNDRED,THOUSAND;
MEROITIC CURSIVE NUMBER ONE HUNDRED=THOUSAND;MEROITIC CURSIVE NUMBER SEVEN=HUNDRED,THOUSAND;
MEROITIC CURSIVE NUMBER SEVEN HUNDRED=THOUSAND;MEROITIC CURSIVE NUMBER SEVENTY=THOUSAND;
MEROITIC CURSIVE NUMBER SIX=HUNDRED,THOUSAND;MEROITIC CURSIVE NUMBER SIX HUNDRED=THOUSAND;
MEROITIC CURSIVE NUMBER SIXTY=THOUSAND;MEROITIC CURSIVE NUMBER TEN=THOUSAND;
MEROITIC CURSIVE NUMBER THIRTY=THOUSAND;MEROITIC CURSIVE NUMBER THREE=HUNDRED,THOUSAND;
MEROITIC CURSIVE NUMBER THREE HUNDRED=THOUSAND;MEROITIC CURSIVE NUMBER TWENTY=THOUSAND;
MEROITIC CURSIVE NUMBER TWO=HUNDRED,THOUSAND;MEROITIC CURSIVE NUMBER TWO HUNDRED=THOUSAND;
MEROITIC HIEROGLYPHIC LETTER=A,BA,BA-2,DA,E,HHA,I,KA,KHA,LA,MA,NA,NA-2,NE,NE-2,O,PA,QA,RA,RA-2,SA,
SA-2,SE,TA,TA-2,TE,TE-2,TO,WA,YA;MEROITIC HIEROGLYPHIC SYMBOL=VIDJ,VIDJ-2;MESSAGE=WAITING;
METRICAL=BREVE,PENTASEME,TETRASEME,TRISEME;METRICAL LONG OVER=SHORT;METRICAL LONG OVER TWO=SHORTS;
METRICAL SHORT OVER=LONG;METRICAL TWO SHORTS=JOINED;METRICAL TWO SHORTS OVER=LONG;MIAO LETTER=AH,
BA,BRI,DA,DDA,DLHA,DLHYA,DZA,DZHA,DZYI,DZZA,FA,GA,GHA,GHHA,HA,HHA,KA,LA,LHA,LHYA,LYA,MA,MHA,NA,
NASALIZATION,NGA,NGHA,NHA,NNA,NNHA,NYA,NYHA,PA,PLA,QA,QGA,RTE,SA,SHA,SSA,SYI,TA,TE,TLHA,TLHYA,
TONE-2,TONE-3,TONE-4,TONE-5,TONE-6,TONE-7,TONE-8,TSA,TSE,TSHA,TSSA,TTA,VA,VFA,WA,XA,ZA,ZHA,ZSA,
ZSHA,ZZA,ZZSA,ZZSYA,ZZYA;MIAO LETTER ARCHAIC=MA,NA,NGA,ZZA;MIAO LETTER REFORMED=TONE-1,TONE-2,
TONE-4,TONE-5,TONE-6,TONE-8,TSHA;MIAO LETTER YI=DZHA,KA,NNA,PA,TA,TSA,TSHA,TTA;
MIAO SIGN=ASPIRATION;MIAO SIGN CONSONANT MODIFIER=BAR;MIAO SIGN REFORMED=ASPIRATION,VOICING;
MIAO TONE=ABOVE,BELOW,RIGHT;MIAO TONE TOP=RIGHT;MIAO VOWEL SIGN=A,AA,AE,AEE,AHH,AI,AN,ANG,AU,E,EA,
EI,EN,ENG,ER,ERR,I,IA,IAN,IANG,IE,IG,II,ING,IO,IONG,IU,N,NG,O,OER,OEY,OG,OO,OU,U,UA,UAN,UANG,UEI,
UI,UNG,UOG,UU,VW,W,WO,Y,YI,YUI;MIAO VOWEL SIGN ROUNDED=ER,ERR;MICR DASH=SYMBOL;MICR ON US=SYMBOL;
MICRO=SIGN;MIDDLE=DOT;MIDDLE THIRD WHITE RIGHT POINTING=INDEX;MIDLINE HORIZONTAL=ELLIPSIS;
MILITARY=HELMET,MEDAL;MILKY=WAY;MILL=SIGN;MINUS=SIGN,TILDE;MINUS SIGN IN=TRIANGLE;
MINUS SIGN WITH COMMA=ABOVE;MINUS SIGN WITH DOT=BELOW;MINUS SIGN WITH FALLING=DOTS;
MINUS SIGN WITH RISING=DOTS;MINUS-OR-PLUS=SIGN;MIRROR=BALL;MOBILE=PHONE;MOBILE PHONE=OFF;
MOBILE PHONE WITH RIGHTWARDS ARROW AT=LEFT;MODERN=PENTATHLON;MODI=DANDA;MODI ABBREVIATION=SIGN;
MODI DIGIT=EIGHT,FIVE,FOUR,NINE,ONE,SEVEN,SIX,THREE,TWO,ZERO;MODI DOUBLE=DANDA;MODI LETTER=A,AA,AI,
AU,BA,BHA,CA,CHA,DA,DDA,DDHA,DHA,E,GA,GHA,HA,I,II,JA,JHA,KA,KHA,LA,LLA,MA,NA,NGA,NNA,NYA,O,PA,PHA,
RA,SA,SHA,SSA,TA,THA,TTA,TTHA,U,UU,VA,YA;MODI LETTER VOCALIC=L,LL,R,RR;MODI SIGN=ANUSVARA,
ARDHACANDRA,HUVA,VIRAMA,VISARGA;MODI VOWEL SIGN=AA,AI,AU,E,I,II,O,U,UU;MODI VOWEL SIGN VOCALIC=L,
LL,R,RR;MODIFIER BREVE WITH INVERTED=BREVE;MODIFIER LETTER=APOSTROPHE,COLON,MACRON,PRIME,SHELF,
UNASPIRATED,US,VOICING;MODIFIER LETTER ACUTE=ACCENT;MODIFIER LETTER ALVEOLAR=CLICK;
MODIFIER LETTER BEGIN HIGH=TONE;MODIFIER LETTER BEGIN LOW=TONE;MODIFIER LETTER BILABIAL=CLICK;
MODIFIER LETTER CAPITAL=A,AE,B,C,D,E,F,G,H,I,J,K,L,M,N,O,OU,P,Q,R,T,U,V,W;
MODIFIER LETTER CAPITAL BARRED=B;MODIFIER LETTER CAPITAL H WITH=STROKE;
MODIFIER LETTER CAPITAL REVERSED=E,N;MODIFIER LETTER CENTRED LEFT HALF=RING;
MODIFIER LETTER CENTRED RIGHT HALF=RING;MODIFIER LETTER CHINESE TONE YANG=PING,QU,RU,SHANG;
MODIFIER LETTER CHINESE TONE YIN=PING,QU,RU,SHANG;MODIFIER LETTER CIRCUMFLEX=ACCENT;
MODIFIER LETTER CROSS=ACCENT;MODIFIER LETTER CYRILLIC=EN;MODIFIER LETTER CYRILLIC HARD=SIGN;
MODIFIER LETTER CYRILLIC SOFT=SIGN;MODIFIER LETTER DENTAL=CLICK;MODIFIER LETTER DOT=SLASH;
MODIFIER LETTER DOT HORIZONTAL=BAR;MODIFIER LETTER DOT VERTICAL=BAR;
MODIFIER LETTER DOUBLE=APOSTROPHE,PRIME;MODIFIER LETTER DOWN=ARROWHEAD,TACK;
MODIFIER LETTER END HIGH=TONE;MODIFIER LETTER END LOW=TONE;
MODIFIER LETTER EXTRA-HIGH DOTTED LEFT-STEM TONE=BAR;MODIFIER LETTER EXTRA-HIGH DOTTED TONE=BAR;
MODIFIER LETTER EXTRA-HIGH LEFT-STEM TONE=BAR;MODIFIER LETTER EXTRA-HIGH TONE=BAR;
MODIFIER LETTER EXTRA-LOW DOTTED LEFT-STEM TONE=BAR;MODIFIER LETTER EXTRA-LOW DOTTED TONE=BAR;
MODIFIER LETTER EXTRA-LOW LEFT-STEM TONE=BAR;MODIFIER LETTER EXTRA-LOW TONE=BAR;
MODIFIER LETTER GEORGIAN=NAR;MODIFIER LETTER GLOTTAL=STOP;MODIFIER LETTER GLOTTAL STOP WITH=STROKE;
MODIFIER LETTER GRAVE=ACCENT;MODIFIER LETTER HALF TRIANGULAR=COLON;
MODIFIER LETTER HIGH DOTTED LEFT-STEM TONE=BAR;MODIFIER LETTER HIGH DOTTED TONE=BAR;
MODIFIER LETTER HIGH LEFT-STEM TONE=BAR;MODIFIER LETTER HIGH TONE=BAR;
MODIFIER LETTER LATERAL=CLICK;MODIFIER LETTER LEFT=ARROWHEAD,TACK;MODIFIER LETTER LEFT HALF=RING;
MODIFIER LETTER LOW=MACRON,RING,TILDE;MODIFIER LETTER LOW ACUTE=ACCENT;
MODIFIER LETTER LOW CIRCUMFLEX=ACCENT;MODIFIER LETTER LOW DOTTED LEFT-STEM TONE=BAR;
MODIFIER LETTER LOW DOTTED TONE=BAR;MODIFIER LETTER LOW DOWN=ARROWHEAD;
MODIFIER LETTER LOW GRAVE=ACCENT;MODIFIER LETTER LOW INVERTED EXCLAMATION=MARK;
MODIFIER LETTER LOW LEFT=ARROW,ARROWHEAD;MODIFIER LETTER LOW LEFT-STEM TONE=BAR;
MODIFIER LETTER LOW RIGHT=ARROWHEAD;MODIFIER LETTER LOW TONE=BAR;MODIFIER LETTER LOW UP=ARROWHEAD;
MODIFIER LETTER LOW VERTICAL=LINE;MODIFIER LETTER LOWER RIGHT CORNER=ANGLE;
MODIFIER LETTER MID DOTTED LEFT-STEM TONE=BAR;MODIFIER LETTER MID DOTTED TONE=BAR;
MODIFIER LETTER MID LEFT-STEM TONE=BAR;MODIFIER LETTER MID TONE=BAR;
MODIFIER LETTER MIDDLE DOUBLE ACUTE=ACCENT;MODIFIER LETTER MIDDLE DOUBLE GRAVE=ACCENT;
MODIFIER LETTER MIDDLE GRAVE=ACCENT;MODIFIER LETTER MINUS=SIGN;MODIFIER LETTER OPEN=SHELF;
MODIFIER LETTER PLUS=SIGN;MODIFIER LETTER RAISED=COLON;MODIFIER LETTER RAISED DOWN=ARROW;
MODIFIER LETTER RAISED EXCLAMATION=MARK;MODIFIER LETTER RAISED INVERTED EXCLAMATION=MARK;
MODIFIER LETTER RAISED UP=ARROW;MODIFIER LETTER RETROFLEX CLICK WITH RETROFLEX=HOOK;
MODIFIER LETTER REVERSED=COMMA;MODIFIER LETTER REVERSED GLOTTAL=STOP;
MODIFIER LETTER REVERSED GLOTTAL STOP WITH=STROKE;MODIFIER LETTER RHOTIC=HOOK;
MODIFIER LETTER RIGHT=ARROWHEAD,TACK;MODIFIER LETTER RIGHT HALF=RING;
MODIFIER LETTER SHORT EQUALS=SIGN;MODIFIER LETTER SMALL=A,AE,AIN,ALPHA,B,BETA,C,CHI,D,DELTA,E,ENG,
ESH,ETH,EZH,F,G,GAMMA,H,HENG,IOTA,J,K,L,LEZH,M,O,P,PHI,Q,R,S,SCHWA,T,THETA,U,UPSILON,V,W,X,Y,Z;
MODIFIER LETTER SMALL B WITH=HOOK;MODIFIER LETTER SMALL BARRED=O;
MODIFIER LETTER SMALL BOTTOM HALF=O;MODIFIER LETTER SMALL C WITH=CURL;
MODIFIER LETTER SMALL CAPITAL=AA,B,G,H,I,L,N,OE,R,U,Y;MODIFIER LETTER SMALL CAPITAL G WITH=HOOK;
MODIFIER LETTER SMALL CAPITAL I WITH=STROKE;MODIFIER LETTER SMALL CAPITAL INVERTED=R;
MODIFIER LETTER SMALL CAPITAL L WITH=BELT;MODIFIER LETTER SMALL CLOSED=OMEGA;
MODIFIER LETTER SMALL CLOSED REVERSED OPEN=E;MODIFIER LETTER SMALL D WITH=HOOK,TAIL;
MODIFIER LETTER SMALL D WITH HOOK AND=TAIL;MODIFIER LETTER SMALL DEZH=DIGRAPH;
MODIFIER LETTER SMALL DOTLESS J WITH=STROKE;MODIFIER LETTER SMALL DOTLESS J WITH STROKE AND=HOOK;
MODIFIER LETTER SMALL DZ=DIGRAPH;MODIFIER LETTER SMALL DZ DIGRAPH WITH=CURL;
MODIFIER LETTER SMALL DZ DIGRAPH WITH RETROFLEX=HOOK;MODIFIER LETTER SMALL FENG=DIGRAPH;
MODIFIER LETTER SMALL G WITH=HOOK;MODIFIER LETTER SMALL GREEK=GAMMA,PHI;
MODIFIER LETTER SMALL H WITH=HOOK,STROKE;MODIFIER LETTER SMALL HENG WITH=HOOK;
MODIFIER LETTER SMALL I WITH=STROKE;MODIFIER LETTER SMALL J WITH=CROSSED-TAIL;
MODIFIER LETTER SMALL L WITH=BELT;MODIFIER LETTER SMALL L WITH INVERTED LAZY=S;
MODIFIER LETTER SMALL L WITH MIDDLE=TILDE;MODIFIER LETTER SMALL L WITH PALATAL=HOOK;
MODIFIER LETTER SMALL L WITH RETROFLEX=HOOK;MODIFIER LETTER SMALL L WITH RETROFLEX HOOK AND=BELT;
MODIFIER LETTER SMALL LEZH WITH RETROFLEX=HOOK;MODIFIER LETTER SMALL LIGATURE=OE;
MODIFIER LETTER SMALL LS=DIGRAPH;MODIFIER LETTER SMALL LZ=DIGRAPH;
MODIFIER LETTER SMALL M WITH=HOOK;MODIFIER LETTER SMALL N WITH LEFT=HOOK;
MODIFIER LETTER SMALL N WITH RETROFLEX=HOOK;MODIFIER LETTER SMALL O WITH=STROKE;
MODIFIER LETTER SMALL OPEN=E,O;MODIFIER LETTER SMALL R WITH=FISHHOOK,TAIL;
MODIFIER LETTER SMALL RAMS=HORN;MODIFIER LETTER SMALL REVERSED=E;
MODIFIER LETTER SMALL REVERSED GLOTTAL=STOP;MODIFIER LETTER SMALL REVERSED OPEN=E;
MODIFIER LETTER SMALL S WITH=CURL,HOOK;MODIFIER LETTER SMALL SCRIPT=G;
MODIFIER LETTER SMALL SIDEWAYS=U;MODIFIER LETTER SMALL T WITH PALATAL=HOOK;
MODIFIER LETTER SMALL T WITH RETROFLEX=HOOK;MODIFIER LETTER SMALL TC DIGRAPH WITH=CURL;
MODIFIER LETTER SMALL TESH=DIGRAPH;MODIFIER LETTER SMALL TOP HALF=O;
MODIFIER LETTER SMALL TS=DIGRAPH;MODIFIER LETTER SMALL TS DIGRAPH WITH RETROFLEX=HOOK;
MODIFIER LETTER SMALL TURNED=A,AE,ALPHA,H,I,M,R,V,W,Y;MODIFIER LETTER SMALL TURNED M WITH LONG=LEG;
MODIFIER LETTER SMALL TURNED OPEN=E;MODIFIER LETTER SMALL TURNED R WITH=HOOK;
MODIFIER LETTER SMALL TURNED R WITH LONG=LEG;
MODIFIER LETTER SMALL TURNED R WITH LONG LEG AND RETROFLEX=HOOK;
MODIFIER LETTER SMALL TURNED Y WITH=BELT;MODIFIER LETTER SMALL U=BAR;
MODIFIER LETTER SMALL U WITH LEFT=HOOK;MODIFIER LETTER SMALL V WITH=HOOK;
MODIFIER LETTER SMALL V WITH RIGHT=HOOK;MODIFIER LETTER SMALL Z WITH=CURL;
MODIFIER LETTER SMALL Z WITH RETROFLEX=HOOK;MODIFIER LETTER STRESS AND HIGH=TONE;
MODIFIER LETTER STRESS AND LOW=TONE;MODIFIER LETTER SUPERSCRIPT HALF TRIANGULAR=COLON;
MODIFIER LETTER SUPERSCRIPT TRIANGULAR=COLON;MODIFIER LETTER TRIANGULAR=COLON;
MODIFIER LETTER TURNED=COMMA;MODIFIER LETTER UP=ARROWHEAD,TACK;MODIFIER LETTER VERTICAL=LINE;
MODIFIER LETTER YANG DEPARTING TONE=MARK;MODIFIER LETTER YIN DEPARTING TONE=MARK;MODULO TWO=SUM;
MONEY=BAG;MONEY WITH=WINGS;MONEY-MOUTH=FACE;MONGOLIAN=BIRGA,COLON,COMMA,ELLIPSIS,NIRUGU;
MONGOLIAN BIRGA WITH=ORNAMENT;MONGOLIAN BIRGA WITH DOUBLE=ORNAMENT;MONGOLIAN DIGIT=EIGHT,FIVE,FOUR,
NINE,ONE,SEVEN,SIX,THREE,TWO,ZERO;MONGOLIAN DOUBLE BIRGA WITH=ORNAMENT;MONGOLIAN FOUR=DOTS;
MONGOLIAN FREE VARIATION SELECTOR=FOUR,ONE,THREE,TWO;MONGOLIAN FULL=STOP;MONGOLIAN INVERTED=BIRGA;
MONGOLIAN INVERTED BIRGA WITH DOUBLE=ORNAMENT;MONGOLIAN LETTER=A,ANG,BA,CHA,CHI,DA,E,EE,FA,GA,HAA,
I,JA,KA,KHA,LA,LHA,MA,NA,O,OE,PA,QA,RA,SA,SHA,TA,TSA,U,UE,WA,YA,ZA,ZHI,ZRA;
MONGOLIAN LETTER ALI GALI=A,AH,BALUDA,CA,DA,DAGALGA,DAMARU,DDA,I,KA,NGA,NNA,PA,PHA,SSA,TA,TTA,TTHA,
UBADAMA,ZA,ZHA;MONGOLIAN LETTER ALI GALI ANUSVARA=ONE;MONGOLIAN LETTER ALI GALI HALF=U,YA;
MONGOLIAN LETTER ALI GALI INVERTED=UBADAMA;MONGOLIAN LETTER ALI GALI THREE=BALUDA;
MONGOLIAN LETTER ALI GALI VISARGA=ONE;MONGOLIAN LETTER CHA WITH TWO=DOTS;
MONGOLIAN LETTER MANCHU=FA,I,KA,RA,ZHA;MONGOLIAN LETTER MANCHU ALI GALI=BHA,CA,CYA,DDHA,DHA,GHA,
JHA,LHA,NGA,SSA,TA,TTA,ZA,ZHA;MONGOLIAN LETTER SIBE=ANG,CHA,DA,E,FA,GA,GAA,HA,HAA,I,IY,JA,KA,PA,
RAA,SHA,TA,TSA,U,UE,ZA,ZHA;MONGOLIAN LETTER TODO=ANG,BA,CHA,DA,DZA,E,GA,GAA,HAA,I,JA,JIA,KA,MA,NIA,
O,OE,PA,QA,TA,TSA,U,UE,WA,YA;MONGOLIAN LETTER TODO ALI GALI=TA,ZHA;
MONGOLIAN LETTER TODO LONG VOWEL=SIGN;MONGOLIAN MANCHU=COMMA;MONGOLIAN MANCHU FULL=STOP;
MONGOLIAN ROTATED=BIRGA;MONGOLIAN ROTATED BIRGA WITH=ORNAMENT;
MONGOLIAN ROTATED BIRGA WITH DOUBLE=ORNAMENT;MONGOLIAN SIBE SYLLABLE BOUNDARY=MARKER;
MONGOLIAN SWIRL=BIRGA;MONGOLIAN SWIRL BIRGA WITH=ORNAMENT;
MONGOLIAN SWIRL BIRGA WITH DOUBLE=ORNAMENT;MONGOLIAN TODO SOFT=HYPHEN;
MONGOLIAN TRIPLE BIRGA WITH=ORNAMENT;MONGOLIAN TURNED SWIRL BIRGA WITH DOUBLE=ORNAMENT;
MONGOLIAN VOWEL=SEPARATOR;MONKEY=FACE;MONOGRAM FOR=EARTH,YANG,YIN;MONOSTABLE=SYMBOL;MOOD=BUBBLE;
MOON=CAKE;MOON VIEWING=CEREMONY;MOTHER=CHRISTMAS;MOTOR=BOAT,SCOOTER;MOTORIZED=WHEELCHAIR;
MOUNT=FUJI;MOUNTAIN=BICYCLIST,CABLEWAY,RAILWAY;MOUSE=FACE,TRAP;MOVIE=CAMERA;MRO=DANDA;
MRO DIGIT=EIGHT,FIVE,FOUR,NINE,ONE,SEVEN,SIX,THREE,TWO,ZERO;MRO DOUBLE=DANDA;MRO LETTER=A,BA,CHU,
DA,DAI,E,EA,HAI,HAO,KEAAE,KHAI,KO,LA,LAN,MAEM,MIM,NGI,NIN,O,OL,OO,PA,PHI,RI,RO,SHI,TA,TEK,THEA,WA,
YO;MUCH=GREATER-THAN,LESS-THAN;MULTANI LETTER=A,BA,BHA,CA,CHA,DA,DDA,DDDA,DDHA,DHA,E,GA,GHA,HA,I,
JA,JJA,KA,KHA,LA,MA,NA,NNA,NYA,PA,PHA,RA,RHA,RRA,SA,TA,THA,TTA,TTHA,U,VA,YA;MULTANI SECTION=MARK;
MULTIPLE MUSICAL=NOTES;MULTIPLICATION=SIGN,X;MULTIPLICATION SIGN IN=TRIANGLE;
MULTIPLICATION SIGN IN DOUBLE=CIRCLE;MULTIPLICATION SIGN IN LEFT HALF=CIRCLE;
MULTIPLICATION SIGN IN RIGHT HALF=CIRCLE;MULTIPLICATION SIGN WITH=UNDERBAR;
MULTIPLICATION SIGN WITH DOT=ABOVE;MULTISET=MULTIPLICATION,UNION;MUSIC FLAT=SIGN;
MUSIC NATURAL=SIGN;MUSIC SHARP=SIGN;MUSICAL=KEYBOARD,NOTE,SCORE;MUSICAL KEYBOARD WITH=JACKS;
MUSICAL SYMBOL=BRACE,BRACKET,BREVE,BREVIS,CAESURA,CLIMACUS,CLIVIS,CODA,CRESCENDO,CROIX,DAMP,
DECRESCENDO,FERMATA,FORTE,HAUPTSTIMME,KORON,LONGA,MAXIMA,MEZZO,MINIMA,NEBENSTIMME,PIANO,PODATUS,
PORRECTUS,RINFORZANDO,SCANDICUS,SEGNO,SORI,SUBITO,TORCULUS,TR,TURN,VIRGA,Z;
MUSICAL SYMBOL ARPEGGIATO=DOWN,UP;MUSICAL SYMBOL BEGIN=BEAM,PHRASE,SLUR,TIE;
MUSICAL SYMBOL BREATH=MARK;MUSICAL SYMBOL BREVIS=REST;MUSICAL SYMBOL C=CLEF;
MUSICAL SYMBOL CIRCLE X=NOTEHEAD;MUSICAL SYMBOL CLUSTER NOTEHEAD=BLACK,WHITE;
MUSICAL SYMBOL COMBINING=ACCENT,ACCENT-STACCATO,BEND,DOIT,FLAG-1,FLAG-2,FLAG-3,FLAG-4,FLAG-5,FLIP,
HARMONIC,LOURE,MARCATO,MARCATO-STACCATO,RIP,SMEAR,STACCATISSIMO,STACCATO,STEM,TENUTO,TREMOLO-1,
TREMOLO-2,TREMOLO-3;MUSICAL SYMBOL COMBINING AUGMENTATION=DOT;
MUSICAL SYMBOL COMBINING DOUBLE=TONGUE;MUSICAL SYMBOL COMBINING DOWN=BOW;
MUSICAL SYMBOL COMBINING SNAP=PIZZICATO;MUSICAL SYMBOL COMBINING SPRECHGESANG=STEM;
MUSICAL SYMBOL COMBINING TRIPLE=TONGUE;MUSICAL SYMBOL COMBINING UP=BOW;MUSICAL SYMBOL COMMON=TIME;
MUSICAL SYMBOL CUT=TIME;MUSICAL SYMBOL DA=CAPO;MUSICAL SYMBOL DAL=SEGNO;MUSICAL SYMBOL DAMP=ALL;
MUSICAL SYMBOL DASHED=BARLINE;MUSICAL SYMBOL DEGREE=SLASH;MUSICAL SYMBOL DOUBLE=BARLINE,FLAT,SHARP;
MUSICAL SYMBOL DRUM=CLEF-1,CLEF-2;MUSICAL SYMBOL EIGHTH=NOTE,REST;MUSICAL SYMBOL END=BEAM,PHRASE,
SLUR,TIE;MUSICAL SYMBOL END OF=STIMME;MUSICAL SYMBOL F=CLEF;MUSICAL SYMBOL F CLEF OTTAVA=ALTA,
BASSA;MUSICAL SYMBOL FERMATA=BELOW;MUSICAL SYMBOL FINAL=BARLINE;MUSICAL SYMBOL FINGERED=TREMOLO-1,
TREMOLO-2,TREMOLO-3;MUSICAL SYMBOL FIVE-LINE=STAFF;MUSICAL SYMBOL FLAT=DOWN,UP;
MUSICAL SYMBOL FOUR-LINE=STAFF;MUSICAL SYMBOL FOUR-STRING=FRETBOARD;MUSICAL SYMBOL FUSA=BLACK,
WHITE;MUSICAL SYMBOL G=CLEF;MUSICAL SYMBOL G CLEF OTTAVA=ALTA,BASSA;MUSICAL SYMBOL GLISSANDO=DOWN,
UP;MUSICAL SYMBOL GRACE NOTE=SLASH;MUSICAL SYMBOL GRACE NOTE NO=SLASH;
MUSICAL SYMBOL GREGORIAN C=CLEF;MUSICAL SYMBOL GREGORIAN F=CLEF;MUSICAL SYMBOL HALF=NOTE,REST;
MUSICAL SYMBOL HALF PEDAL=MARK;MUSICAL SYMBOL INVERTED=TURN;MUSICAL SYMBOL KIEVAN C=CLEF;
MUSICAL SYMBOL KIEVAN EIGHTH NOTE STEM=DOWN,UP;MUSICAL SYMBOL KIEVAN END OF=PIECE;
MUSICAL SYMBOL KIEVAN FINAL=NOTE;MUSICAL SYMBOL KIEVAN FLAT=SIGN;MUSICAL SYMBOL KIEVAN HALF=NOTE;
MUSICAL SYMBOL KIEVAN QUARTER NOTE STEM=DOWN,UP;MUSICAL SYMBOL KIEVAN RECITATIVE=MARK;
MUSICAL SYMBOL KIEVAN WHOLE=NOTE;MUSICAL SYMBOL LEFT REPEAT=SIGN;
MUSICAL SYMBOL LONGA IMPERFECTA=REST;MUSICAL SYMBOL LONGA PERFECTA=REST;
MUSICAL SYMBOL MINIMA=BLACK,REST;MUSICAL SYMBOL MOON NOTEHEAD=BLACK,WHITE;
MUSICAL SYMBOL MULTI=REST;MUSICAL SYMBOL MULTIPLE MEASURE=REST;MUSICAL SYMBOL NATURAL=DOWN,UP;
MUSICAL SYMBOL NOTEHEAD=BLACK;MUSICAL SYMBOL NULL=NOTEHEAD;
MUSICAL SYMBOL ONE HUNDRED TWENTY-EIGHTH=NOTE,REST;MUSICAL SYMBOL ONE-LINE=STAFF;
MUSICAL SYMBOL ORNAMENT=STROKE-1,STROKE-10,STROKE-11,STROKE-2,STROKE-3,STROKE-4,STROKE-5,STROKE-6,
STROKE-7,STROKE-8,STROKE-9;MUSICAL SYMBOL OTTAVA=ALTA,BASSA;MUSICAL SYMBOL PARENTHESIS=NOTEHEAD;
MUSICAL SYMBOL PEDAL=MARK;MUSICAL SYMBOL PEDAL UP=MARK;MUSICAL SYMBOL PES=SUBPUNCTIS;
MUSICAL SYMBOL PLUS=NOTEHEAD;MUSICAL SYMBOL PORRECTUS=FLEXUS;MUSICAL SYMBOL QUARTER=NOTE,REST;
MUSICAL SYMBOL QUARTER TONE=FLAT,SHARP;MUSICAL SYMBOL QUINDICESIMA=ALTA,BASSA;
MUSICAL SYMBOL REPEAT=DOTS;MUSICAL SYMBOL REPEATED=FIGURE-1,FIGURE-2,FIGURE-3;
MUSICAL SYMBOL REVERSE FINAL=BARLINE;MUSICAL SYMBOL RIGHT REPEAT=SIGN;
MUSICAL SYMBOL SCANDICUS=FLEXUS;MUSICAL SYMBOL SEMIBREVIS=BLACK,REST,WHITE;
MUSICAL SYMBOL SEMIMINIMA=BLACK,REST,WHITE;MUSICAL SYMBOL SHARP=DOWN,UP;
MUSICAL SYMBOL SHORT=BARLINE;MUSICAL SYMBOL SINGLE=BARLINE;MUSICAL SYMBOL SIX-LINE=STAFF;
MUSICAL SYMBOL SIX-STRING=FRETBOARD;MUSICAL SYMBOL SIXTEENTH=NOTE,REST;
MUSICAL SYMBOL SIXTY-FOURTH=NOTE,REST;MUSICAL SYMBOL SQUARE=B;MUSICAL SYMBOL SQUARE NOTEHEAD=BLACK,
WHITE;MUSICAL SYMBOL TEMPUS IMPERFECTUM CUM PROLATIONE=IMPERFECTA,PERFECTA;
MUSICAL SYMBOL TEMPUS IMPERFECTUM CUM PROLATIONE IMPERFECTA=DIMINUTION-1,DIMINUTION-2,DIMINUTION-3;
MUSICAL SYMBOL TEMPUS PERFECTUM CUM PROLATIONE=IMPERFECTA,PERFECTA;
MUSICAL SYMBOL TEMPUS PERFECTUM CUM PROLATIONE PERFECTA=DIMINUTION-1;
MUSICAL SYMBOL THIRTY-SECOND=NOTE,REST;MUSICAL SYMBOL THREE-LINE=STAFF;
MUSICAL SYMBOL TORCULUS=RESUPINUS;MUSICAL SYMBOL TRIANGLE NOTEHEAD DOWN=BLACK,WHITE;
MUSICAL SYMBOL TRIANGLE NOTEHEAD LEFT=BLACK,WHITE;MUSICAL SYMBOL TRIANGLE NOTEHEAD RIGHT=BLACK,
WHITE;MUSICAL SYMBOL TRIANGLE NOTEHEAD UP=BLACK,WHITE;
MUSICAL SYMBOL TRIANGLE NOTEHEAD UP RIGHT=BLACK,WHITE;
MUSICAL SYMBOL TRIANGLE-ROUND NOTEHEAD DOWN=BLACK,WHITE;MUSICAL SYMBOL TURN=SLASH,UP;
MUSICAL SYMBOL TWO-LINE=STAFF;MUSICAL SYMBOL VOID=NOTEHEAD;MUSICAL SYMBOL WHOLE=NOTE,REST;
MUSICAL SYMBOL WITH=FINGERNAILS;MUSICAL SYMBOL X=NOTEHEAD;MYANMAR CONSONANT SIGN MEDIAL=HA,RA,WA,
YA;MYANMAR CONSONANT SIGN MON MEDIAL=LA,MA,NA;MYANMAR CONSONANT SIGN SHAN MEDIAL=WA;
MYANMAR DIGIT=EIGHT,FIVE,FOUR,NINE,ONE,SEVEN,SIX,THREE,TWO,ZERO;MYANMAR LETTER=A,AU,BA,BHA,CA,CHA,
DA,DDA,DDHA,DHA,E,GA,GHA,HA,I,II,JA,JHA,KA,KHA,LA,LLA,MA,NA,NGA,NNA,NNYA,NYA,O,PA,PHA,RA,SA,SHA,
SSA,TA,THA,TTA,TTHA,U,UU,WA,YA;MYANMAR LETTER AITON=RA;MYANMAR LETTER EASTERN PWO KAREN=GHWA,NNA,
YWA;MYANMAR LETTER GREAT=SA;MYANMAR LETTER KHAMTI=CA,CHA,DDA,DDHA,DHA,FA,GA,HA,HHA,JA,JHA,LLA,NA,
NYA,RA,SA,TTA,TTHA,XA,ZA;MYANMAR LETTER MON=BBA,BBE,E,JHA,NGA;MYANMAR LETTER RUMAI PALAUNG=FA;
MYANMAR LETTER SGAW KAREN=SHA;MYANMAR LETTER SHAN=A,BA,BHA,CA,CHA,DA,FA,GA,GHA,HA,JHA,KA,KHA,NA,
NNA,NYA,PHA,THA,ZA;MYANMAR LETTER SHWE PALAUNG=CHA,SHA;MYANMAR LETTER TAI LAING=BA,BHA,DA,DDA,DDHA,
DHA,FA,GA,GHA,JA,JHA,LLA,NNA,NYA;MYANMAR LETTER VOCALIC=L,LL,R,RR;
MYANMAR LETTER WESTERN PWO KAREN=PWA,THA;MYANMAR LOGOGRAM KHAMTI=HM,OAY,QN;
MYANMAR MODIFIER LETTER KHAMTI=REDUPLICATION;MYANMAR MODIFIER LETTER SHAN=REDUPLICATION;
MYANMAR SHAN DIGIT=EIGHT,FIVE,FOUR,NINE,ONE,SEVEN,SIX,THREE,TWO,ZERO;MYANMAR SIGN=ANUSVARA,ASAT,
SECTION,VIRAMA,VISARGA;MYANMAR SIGN DOT=BELOW;MYANMAR SIGN KHAMTI=TONE-1,TONE-3;
MYANMAR SIGN LITTLE=SECTION;MYANMAR SIGN PAO KAREN=TONE;MYANMAR SIGN RUMAI PALAUNG=TONE-5;
MYANMAR SIGN SHAN=SAW,TONE-2,TONE-3,TONE-5,TONE-6;MYANMAR SIGN SHAN COUNCIL=TONE-2,TONE-3;
MYANMAR SIGN SHAN COUNCIL EMPHATIC=TONE;MYANMAR SIGN TAI LAING=TONE-2,TONE-5;
MYANMAR SIGN WESTERN PWO KAREN=TONE-1,TONE-2,TONE-3,TONE-4,TONE-5;MYANMAR SYMBOL=AFOREMENTIONED,
COMPLETED,GENITIVE,LOCATIVE;MYANMAR SYMBOL AITON=EXCLAMATION,ONE,TWO;
MYANMAR SYMBOL SHAN=EXCLAMATION,ONE;MYANMAR TAI LAING DIGIT=EIGHT,FIVE,FOUR,NINE,ONE,SEVEN,SIX,
THREE,TWO,ZERO;MYANMAR TONE MARK SGAW KAREN=HATHI;MYANMAR TONE MARK SGAW KAREN KE=PHO;
MYANMAR VOWEL SIGN=AA,AI,E,I,II,U,UU;MYANMAR VOWEL SIGN AITON=A,AI;MYANMAR VOWEL SIGN E=ABOVE;
MYANMAR VOWEL SIGN GEBA KAREN=I;MYANMAR VOWEL SIGN KAYAH=EE,OE,U;MYANMAR VOWEL SIGN MON=II,O;
MYANMAR VOWEL SIGN SGAW KAREN=EU;MYANMAR VOWEL SIGN SHAN=AA,E;MYANMAR VOWEL SIGN SHAN E=ABOVE;
MYANMAR VOWEL SIGN SHAN FINAL=Y;MYANMAR VOWEL SIGN TALL=AA;MYANMAR VOWEL SIGN VOCALIC=L,LL,R,RR;
MYANMAR VOWEL SIGN WESTERN PWO KAREN=EU,UE;N-ARY=COPRODUCT,INTERSECTION,PRODUCT,SUMMATION,UNION;
N-ARY CIRCLED DOT=OPERATOR;N-ARY CIRCLED PLUS=OPERATOR;N-ARY CIRCLED TIMES=OPERATOR;
N-ARY LOGICAL=AND,OR;N-ARY SQUARE INTERSECTION=OPERATOR;N-ARY SQUARE UNION=OPERATOR;
N-ARY TIMES=OPERATOR;N-ARY UNION OPERATOR WITH=DOT,PLUS;N-ARY WHITE VERTICAL=BAR;
NABATAEAN CRUCIFORM NUMBER=FOUR;NABATAEAN LETTER=ALEPH,AYIN,BETH,DALETH,GIMEL,HE,HETH,KAPH,LAMEDH,
MEM,NUN,PE,QOPH,RESH,SADHE,SAMEKH,SHIN,TAW,TETH,WAW,YODH,ZAYIN;NABATAEAN LETTER FINAL=ALEPH,BETH,
HE,KAPH,LAMEDH,MEM,NUN,SHIN,YODH;NABATAEAN NUMBER=FIVE,FOUR,ONE,TEN,THREE,TWENTY,TWO;
NABATAEAN NUMBER ONE=HUNDRED;NAIL=POLISH;NAIRA=SIGN;NAME=BADGE;NANDINAGARI=HEADSTROKE;
NANDINAGARI LETTER=A,AA,AI,AU,BA,BHA,CA,CHA,DA,DDA,DDHA,DHA,E,GA,GHA,HA,I,II,JA,JHA,KA,KHA,LA,LLA,
MA,NA,NGA,NNA,NYA,O,PA,PHA,RA,RRA,SA,SHA,SSA,TA,THA,TTA,TTHA,U,UU,VA,YA;
NANDINAGARI LETTER VOCALIC=R,RR;NANDINAGARI SIGN=ANUSVARA,AVAGRAHA,SIDDHAM,VIRAMA,VISARGA;
NANDINAGARI VOWEL SIGN=AA,AI,AU,E,I,II,O,U,UU;NANDINAGARI VOWEL SIGN PRISHTHAMATRA=E;
NANDINAGARI VOWEL SIGN VOCALIC=R,RR;NARROW NO-BREAK=SPACE;NATIONAL=PARK;NATIONAL DIGIT=SHAPES;
NAUSEATED=FACE;NAZAR=AMULET;NEGATED DOUBLE VERTICAL BAR DOUBLE RIGHT=TURNSTILE;
NEGATIVE=ACKNOWLEDGE;NEGATIVE CIRCLED=SQUARE,TRIANGLE;NEGATIVE CIRCLED DIGIT=ZERO;
NEGATIVE CIRCLED LATIN CAPITAL LETTER=A,B,C,D,E,F,G,H,I,J,K,L,M,N,O,P,Q,R,S,T,U,V,W,X,Y,Z;
NEGATIVE CIRCLED NUMBER=EIGHTEEN,ELEVEN,FIFTEEN,FOURTEEN,NINETEEN,SEVENTEEN,SIXTEEN,THIRTEEN,
TWELVE,TWENTY;NEGATIVE DIAGONAL=CROSS,DIAMOND;NEGATIVE DIAGONAL MIDDLE RIGHT TO LOWER=CENTRE;
NEGATIVE SQUARED=AB,IC,PA,SA,WC;NEGATIVE SQUARED CROSS=MARK;
NEGATIVE SQUARED LATIN CAPITAL LETTER=A,B,C,D,E,F,G,H,I,J,K,L,M,N,O,P,Q,R,S,T,U,V,W,X,Y,Z;
NEGATIVE SQUARED QUESTION=MARK;NEITHER A SUBSET OF NOR EQUAL=TO;NEITHER A SUPERSET OF NOR EQUAL=TO;
NEITHER APPROXIMATELY NOR ACTUALLY EQUAL=TO;NEITHER GREATER-THAN NOR=LESS-THAN;
NEITHER GREATER-THAN NOR EQUAL=TO;NEITHER GREATER-THAN NOR EQUIVALENT=TO;
NEITHER LESS-THAN NOR=GREATER-THAN;NEITHER LESS-THAN NOR EQUAL=TO;
NEITHER LESS-THAN NOR EQUIVALENT=TO;NEPTUNE FORM=TWO;NERD=FACE;NEST WITH=EGGS;NESTING=DOLLS;
NEUTRAL=FACE;NEUTRAL CHESS=BISHOP,EQUIHOPPER,KING,KNIGHT,PAWN,QUEEN,ROOK;
NEUTRAL CHESS BISHOP ROTATED NINETY=DEGREES;
NEUTRAL CHESS BISHOP ROTATED TWO HUNDRED SEVENTY=DEGREES;
NEUTRAL CHESS EQUIHOPPER ROTATED NINETY=DEGREES;NEUTRAL CHESS KING ROTATED NINETY=DEGREES;
NEUTRAL CHESS KING ROTATED TWO HUNDRED SEVENTY=DEGREES;
NEUTRAL CHESS KNIGHT ROTATED FORTY-FIVE=DEGREES;NEUTRAL CHESS KNIGHT ROTATED NINETY=DEGREES;
NEUTRAL CHESS KNIGHT ROTATED ONE HUNDRED THIRTY-FIVE=DEGREES;
NEUTRAL CHESS KNIGHT ROTATED THREE HUNDRED FIFTEEN=DEGREES;
NEUTRAL CHESS KNIGHT ROTATED TWO HUNDRED SEVENTY=DEGREES;
NEUTRAL CHESS KNIGHT ROTATED TWO HUNDRED TWENTY-FIVE=DEGREES;
NEUTRAL CHESS PAWN ROTATED NINETY=DEGREES;NEUTRAL CHESS PAWN ROTATED TWO HUNDRED SEVENTY=DEGREES;
NEUTRAL CHESS QUEEN ROTATED NINETY=DEGREES;NEUTRAL CHESS QUEEN ROTATED TWO HUNDRED SEVENTY=DEGREES;
NEUTRAL CHESS ROOK ROTATED NINETY=DEGREES;NEUTRAL CHESS ROOK ROTATED TWO HUNDRED SEVENTY=DEGREES;
NEUTRAL CHESS TURNED=BISHOP,KING,KNIGHT,PAWN,QUEEN,ROOK;NEW=LINE;NEW MOON=SYMBOL;
NEW MOON WITH=FACE;NEW SHEQEL=SIGN;NEW TAI LUE DIGIT=EIGHT,FIVE,FOUR,NINE,ONE,SEVEN,SIX,THREE,TWO,
ZERO;NEW TAI LUE LETTER FINAL=B,D,K,M,N,NG,V;NEW TAI LUE LETTER HIGH=BA,DA,FA,HA,KA,KVA,LA,MA,NA,
NGA,PA,PHA,QA,SA,SUA,TA,THA,TSA,VA,XA,XVA,YA;NEW TAI LUE LETTER LOW=BA,DA,FA,HA,KA,KVA,LA,MA,NA,
NGA,PA,PHA,QA,SA,SUA,TA,THA,TSA,VA,XA,XVA,YA;NEW TAI LUE SIGN=LAE,LAEV;NEW TAI LUE THAM DIGIT=ONE;
NEW TAI LUE TONE=MARK-1,MARK-2;NEW TAI LUE VOWEL SIGN=AA,AAY,AE,AY,E,II,IY,O,OA,OAY,OY,U,UE,UEY,UU,
UY;NEW TAI LUE VOWEL SIGN VOWEL=SHORTENER;NEWA=COMMA,DANDA,OM,SIDDHI;NEWA ABBREVIATION=SIGN;
NEWA DIGIT=EIGHT,FIVE,FOUR,NINE,ONE,SEVEN,SIX,THREE,TWO,ZERO;NEWA DOUBLE=COMMA,DANDA;
NEWA GAP=FILLER;NEWA INSERTION=SIGN;NEWA LETTER=A,AA,AI,AU,BA,BHA,CA,CHA,DA,DDA,DDHA,DHA,E,GA,GHA,
HA,I,II,JA,JHA,KA,KHA,LA,LHA,MA,MHA,NA,NGA,NGHA,NHA,NNA,NYA,NYHA,O,PA,PHA,RA,RHA,SA,SHA,SSA,TA,THA,
TTA,TTHA,U,UU,WA,YA;NEWA LETTER VEDIC=ANUSVARA;NEWA LETTER VOCALIC=L,LL,R,RR;NEWA PLACEHOLDER=MARK;
NEWA SANDHI=MARK;NEWA SIGN=ANUSVARA,AVAGRAHA,CANDRABINDU,JIHVAMULIYA,NUKTA,UPADHMANIYA,VIRAMA,
VISARGA;NEWA SIGN FINAL=ANUSVARA;NEWA VOWEL SIGN=AA,AI,AU,E,I,II,O,U,UU;NEWA VOWEL SIGN VOCALIC=L,
LL,R,RR;NEWLINE=LEFT,RIGHT;NEXT=LINE,PAGE;NIGHT WITH=STARS;NKO=COMMA,DANTAYALAN,LAJANYALAN;
NKO COMBINING DOUBLE DOT=ABOVE;NKO COMBINING LONG DESCENDING=TONE;NKO COMBINING LONG HIGH=TONE;
NKO COMBINING LONG LOW=TONE;NKO COMBINING LONG RISING=TONE;NKO COMBINING NASALIZATION=MARK;
NKO COMBINING SHORT HIGH=TONE;NKO COMBINING SHORT LOW=TONE;NKO COMBINING SHORT RISING=TONE;
NKO DIGIT=EIGHT,FIVE,FOUR,NINE,ONE,SEVEN,SIX,THREE,TWO,ZERO;NKO DOROME=SIGN;NKO EXCLAMATION=MARK;
NKO HIGH TONE=APOSTROPHE;NKO LETTER=A,BA,CHA,DA,DAGBASINNA,E,EE,FA,GBA,HA,I,JA,KA,LA,MA,N,NA,NYA,O,
OO,PA,RA,RRA,SA,TA,U,WA,YA;NKO LETTER JONA=CHA,JA,RA;NKO LETTER NA=WOLOSO;NKO LETTER NYA=WOLOSO;
NKO LOW TONE=APOSTROPHE;NKO SYMBOL=GBAKURUNEN;NKO SYMBOL OO=DENNEN;NKO TAMAN=SIGN;NO=BICYCLES,
ENTRY,PEDESTRIANS,PIRACY;NO BREAK=HERE;NO ENTRY=SIGN;NO MOBILE=PHONES;NO ONE UNDER EIGHTEEN=SYMBOL;
NO SMOKING=SYMBOL;NO-BREAK=SPACE;NOMINAL DIGIT=SHAPES;NOMISMA=SIGN;NON-BREAKING=HYPHEN;
NON-POTABLE WATER=SYMBOL;NORDIC MARK=SIGN;NORMAL SUBGROUP=OF;NORMAL SUBGROUP OF OR EQUAL=TO;
NORTH EAST=ARROW;NORTH EAST AND SOUTH WEST=ARROW;NORTH EAST ARROW AND SOUTH EAST=ARROW;
NORTH EAST ARROW CROSSING NORTH WEST=ARROW;NORTH EAST ARROW CROSSING SOUTH EAST=ARROW;
NORTH EAST ARROW WITH=HOOK;NORTH EAST BLACK=ARROW;NORTH EAST DOUBLE=ARROW;NORTH EAST POINTING=BUD,
LEAF;NORTH EAST POINTING VINE=LEAF;NORTH EAST SANS-SERIF=ARROW;NORTH EAST TRIANGLE-HEADED=ARROW;
NORTH EAST TRIANGLE-HEADED ARROW TO=BAR;NORTH EAST WHITE=ARROW;NORTH INDIC FRACTION ONE=EIGHTH,
HALF,QUARTER,SIXTEENTH;NORTH INDIC FRACTION THREE=QUARTERS,SIXTEENTHS;NORTH INDIC PLACEHOLDER=MARK;
NORTH INDIC QUANTITY=MARK;NORTH INDIC QUARTER=MARK;NORTH INDIC RUPEE=MARK;NORTH WEST=ARROW;
NORTH WEST AND SOUTH EAST=ARROW;NORTH WEST ARROW AND NORTH EAST=ARROW;
NORTH WEST ARROW CROSSING NORTH EAST=ARROW;NORTH WEST ARROW TO=CORNER;NORTH WEST ARROW TO LONG=BAR;
NORTH WEST ARROW WITH=HOOK;NORTH WEST BLACK=ARROW;NORTH WEST DOUBLE=ARROW;NORTH WEST POINTING=BUD,
LEAF;NORTH WEST POINTING VINE=LEAF;NORTH WEST SANS-SERIF=ARROW;NORTH WEST TRIANGLE-HEADED=ARROW;
NORTH WEST TRIANGLE-HEADED ARROW TO=BAR;NORTH WEST WHITE=ARROW;NORTHEAST-POINTING=AIRPLANE;
NOT=GREATER-THAN,LESS-THAN,SIGN,TILDE,TRUE;NOT A SUBSET=OF;NOT A SUPERSET=OF;NOT ALMOST EQUAL=TO;
NOT AN ELEMENT=OF;NOT ASYMPTOTICALLY EQUAL=TO;NOT CHECK=MARK;NOT EQUAL=TO;NOT EQUIVALENT=TO;
NOT IDENTICAL=TO;NOT NORMAL SUBGROUP=OF;NOT NORMAL SUBGROUP OF OR EQUAL=TO;NOT PARALLEL=TO;
NOT SQUARE IMAGE OF OR EQUAL=TO;NOT SQUARE ORIGINAL OF OR EQUAL=TO;
NOTCHED LEFT SEMICIRCLE WITH THREE=DOTS;NOTCHED LOWER RIGHT-SHADOWED WHITE RIGHTWARDS=ARROW;
NOTCHED RIGHT SEMICIRCLE WITH THREE=DOTS;NOTCHED UPPER RIGHT-SHADOWED WHITE RIGHTWARDS=ARROW;
NOTE=PAD,PAGE;NOTEBOOK WITH DECORATIVE=COVER;NUMBER=SIGN;NUMBER EIGHTEEN FULL=STOP;
NUMBER ELEVEN FULL=STOP;NUMBER FIFTEEN FULL=STOP;NUMBER FOURTEEN FULL=STOP;
NUMBER NINETEEN FULL=STOP;NUMBER SEVENTEEN FULL=STOP;NUMBER SIXTEEN FULL=STOP;NUMBER TEN FULL=STOP;
NUMBER THIRTEEN FULL=STOP;NUMBER TWELVE FULL=STOP;NUMBER TWENTY FULL=STOP;NUMERO=SIGN;
NUSHU=CHARACTER-1B170,CHARACTER-1B171,CHARACTER-1B172,CHARACTER-1B173,CHARACTER-1B174,
CHARACTER-1B175,CHARACTER-1B176,CHARACTER-1B177,CHARACTER-1B178,CHARACTER-1B179,CHARACTER-1B17A,
CHARACTER-1B17B,CHARACTER-1B17C,CHARACTER-1B17D,CHARACTER-1B17E,CHARACTER-1B17F,CHARACTER-1B180,
CHARACTER-1B181,CHARACTER-1B182,CHARACTER-1B183,CHARACTER-1B184,CHARACTER-1B185,CHARACTER-1B186,
CHARACTER-1B187,CHARACTER-1B188,CHARACTER-1B189,CHARACTER-1B18A,CHARACTER-1B18B,CHARACTER-1B18C,
CHARACTER-1B18D,CHARACTER-1B18E,CHARACTER-1B18F,CHARACTER-1B190,CHARACTER-1B191,CHARACTER-1B192,
CHARACTER-1B193,CHARACTER-1B194,CHARACTER-1B195,CHARACTER-1B196,CHARACTER-1B197,CHARACTER-1B198,
CHARACTER-1B199,CHARACTER-1B19A,CHARACTER-1B19B,CHARACTER-1B19C,CHARACTER-1B19D,CHARACTER-1B19E,
CHARACTER-1B19F,CHARACTER-1B1A0,CHARACTER-1B1A1,CHARACTER-1B1A2,CHARACTER-1B1A3,CHARACTER-1B1A4,
CHARACTER-1B1A5,CHARACTER-1B1A6,CHARACTER-1B1A7,CHARACTER-1B1A8,CHARACTER-1B1A9,CHARACTER-1B1AA,
CHARACTER-1B1AB,CHARACTER-1B1AC,CHARACTER-1B1AD,CHARACTER-1B1AE,CHARACTER-1B1AF,CHARACTER-1B1B0,
CHARACTER-1B1B1,CHARACTER-1B1B2,CHARACTER-1B1B3,CHARACTER-1B1B4,CHARACTER-1B1B5,CHARACTER-1B1B6,
CHARACTER-1B1B7,CHARACTER-1B1B8,CHARACTER-1B1B9,CHARACTER-1B1BA,CHARACTER-1B1BB,CHARACTER-1B1BC,
CHARACTER-1B1BD,CHARACTER-1B1BE,CHARACTER-1B1BF,CHARACTER-1B1C0,CHARACTER-1B1C1,CHARACTER-1B1C2,
CHARACTER-1B1C3,CHARACTER-1B1C4,CHARACTER-1B1C5,CHARACTER-1B1C6,CHARACTER-1B1C7,CHARACTER-1B1C8,
CHARACTER-1B1C9,CHARACTER-1B1CA,CHARACTER-1B1CB,CHARACTER-1B1CC,CHARACTER-1B1CD,CHARACTER-1B1CE,
CHARACTER-1B1CF,CHARACTER-1B1D0,CHARACTER-1B1D1,CHARACTER-1B1D2,CHARACTER-1B1D3,CHARACTER-1B1D4,
CHARACTER-1B1D5,CHARACTER-1B1D6,CHARACTER-1B1D7,CHARACTER-1B1D8,CHARACTER-1B1D9,CHARACTER-1B1DA,
CHARACTER-1B1DB,CHARACTER-1B1DC,CHARACTER-1B1DD,CHARACTER-1B1DE,CHARACTER-1B1DF,CHARACTER-1B1E0,
CHARACTER-1B1E1,CHARACTER-1B1E2,CHARACTER-1B1E3,CHARACTER-1B1E4,CHARACTER-1B1E5,CHARACTER-1B1E6,
CHARACTER-1B1E7,CHARACTER-1B1E8,CHARACTER-1B1E9,CHARACTER-1B1EA,CHARACTER-1B1EB,CHARACTER-1B1EC,
CHARACTER-1B1ED,CHARACTER-1B1EE,CHARACTER-1B1EF,CHARACTER-1B1F0,CHARACTER-1B1F1,CHARACTER-1B1F2,
CHARACTER-1B1F3,CHARACTER-1B1F4,CHARACTER-1B1F5,CHARACTER-1B1F6,CHARACTER-1B1F7,CHARACTER-1B1F8,
CHARACTER-1B1F9,CHARACTER-1B1FA,CHARACTER-1B1FB,CHARACTER-1B1FC,CHARACTER-1B1FD,CHARACTER-1B1FE,
CHARACTER-1B1FF,CHARACTER-1B200,CHARACTER-1B201,CHARACTER-1B202,CHARACTER-1B203,CHARACTER-1B204,
CHARACTER-1B205,CHARACTER-1B206,CHARACTER-1B207,CHARACTER-1B208,CHARACTER-1B209,CHARACTER-1B20A,
CHARACTER-1B20B,CHARACTER-1B20C,CHARACTER-1B20D,CHARACTER-1B20E,CHARACTER-1B20F,CHARACTER-1B210,
CHARACTER-1B211,CHARACTER-1B212,CHARACTER-1B213,CHARACTER-1B214,CHARACTER-1B215,CHARACTER-1B216,
CHARACTER-1B217,CHARACTER-1B218,CHARACTER-1B219,CHARACTER-1B21A,CHARACTER-1B21B,CHARACTER-1B21C,
CHARACTER-1B21D,CHARACTER-1B21E,CHARACTER-1B21F,CHARACTER-1B220,CHARACTER-1B221,CHARACTER-1B222,
CHARACTER-1B223,CHARACTER-1B224,CHARACTER-1B225,CHARACTER-1B226,CHARACTER-1B227,CHARACTER-1B228,
CHARACTER-1B229,CHARACTER-1B22A,CHARACTER-1B22B,CHARACTER-1B22C,CHARACTER-1B22D,CHARACTER-1B22E,
CHARACTER-1B22F,CHARACTER-1B230,CHARACTER-1B231,CHARACTER-1B232,CHARACTER-1B233,CHARACTER-1B234,
CHARACTER-1B235,CHARACTER-1B236,CHARACTER-1B237,CHARACTER-1B238,CHARACTER-1B239,CHARACTER-1B23A,
CHARACTER-1B23B,CHARACTER-1B23C,CHARACTER-1B23D,CHARACTER-1B23E,CHARACTER-1B23F,CHARACTER-1B240,
CHARACTER-1B241,CHARACTER-1B242,CHARACTER-1B243,CHARACTER-1B244,CHARACTER-1B245,CHARACTER-1B246,
CHARACTER-1B247,CHARACTER-1B248,CHARACTER-1B249,CHARACTER-1B24A,CHARACTER-1B24B,CHARACTER-1B24C,
CHARACTER-1B24D,CHARACTER-1B24E,CHARACTER-1B24F,CHARACTER-1B250,CHARACTER-1B251,CHARACTER-1B252,
CHARACTER-1B253,CHARACTER-1B254,CHARACTER-1B255,CHARACTER-1B256,CHARACTER-1B257,CHARACTER-1B258,
CHARACTER-1B259,CHARACTER-1B25A,CHARACTER-1B25B,CHARACTER-1B25C,CHARACTER-1B25D,CHARACTER-1B25E,
CHARACTER-1B25F,CHARACTER-1B260,CHARACTER-1B261,CHARACTER-1B262,CHARACTER-1B263,CHARACTER-1B264,
CHARACTER-1B265,CHARACTER-1B266,CHARACTER-1B267,CHARACTER-1B268,CHARACTER-1B269,CHARACTER-1B26A,
CHARACTER-1B26B,CHARACTER-1B26C,CHARACTER-1B26D,CHARACTER-1B26E,CHARACTER-1B26F,CHARACTER-1B270,
CHARACTER-1B271,CHARACTER-1B272,CHARACTER-1B273,CHARACTER-1B274,CHARACTER-1B275,CHARACTER-1B276,
CHARACTER-1B277,CHARACTER-1B278,CHARACTER-1B279,CHARACTER-1B27A,CHARACTER-1B27B,CHARACTER-1B27C,
CHARACTER-1B27D,CHARACTER-1B27E,CHARACTER-1B27F,CHARACTER-1B280,CHARACTER-1B281,CHARACTER-1B282,
CHARACTER-1B283,CHARACTER-1B284,CHARACTER-1B285,CHARACTER-1B286,CHARACTER-1B287,CHARACTER-1B288,
CHARACTER-1B289,CHARACTER-1B28A,CHARACTER-1B28B,CHARACTER-1B28C,CHARACTER-1B28D,CHARACTER-1B28E,
CHARACTER-1B28F,CHARACTER-1B290,CHARACTER-1B291,CHARACTER-1B292,CHARACTER-1B293,CHARACTER-1B294,
CHARACTER-1B295,CHARACTER-1B296,CHARACTER-1B297,CHARACTER-1B298,CHARACTER-1B299,CHARACTER-1B29A,
CHARACTER-1B29B,CHARACTER-1B29C,CHARACTER-1B29D,CHARACTER-1B29E,CHARACTER-1B29F,CHARACTER-1B2A0,
CHARACTER-1B2A1,CHARACTER-1B2A2,CHARACTER-1B2A3,CHARACTER-1B2A4,CHARACTER-1B2A5,CHARACTER-1B2A6,
CHARACTER-1B2A7,CHARACTER-1B2A8,CHARACTER-1B2A9,CHARACTER-1B2AA,CHARACTER-1B2AB,CHARACTER-1B2AC,
CHARACTER-1B2AD,CHARACTER-1B2AE,CHARACTER-1B2AF,CHARACTER-1B2B0,CHARACTER-1B2B1,CHARACTER-1B2B2,
CHARACTER-1B2B3,CHARACTER-1B2B4,CHARACTER-1B2B5,CHARACTER-1B2B6,CHARACTER-1B2B7,CHARACTER-1B2B8,
CHARACTER-1B2B9,CHARACTER-1B2BA,CHARACTER-1B2BB,CHARACTER-1B2BC,CHARACTER-1B2BD,CHARACTER-1B2BE,
CHARACTER-1B2BF,CHARACTER-1B2C0,CHARACTER-1B2C1,CHARACTER-1B2C2,CHARACTER-1B2C3,CHARACTER-1B2C4,
CHARACTER-1B2C5,CHARACTER-1B2C6,CHARACTER-1B2C7,CHARACTER-1B2C8,CHARACTER-1B2C9,CHARACTER-1B2CA,
CHARACTER-1B2CB,CHARACTER-1B2CC,CHARACTER-1B2CD,CHARACTER-1B2CE,CHARACTER-1B2CF,CHARACTER-1B2D0,
CHARACTER-1B2D1,CHARACTER-1B2D2,CHARACTER-1B2D3,CHARACTER-1B2D4,CHARACTER-1B2D5,CHARACTER-1B2D6,
CHARACTER-1B2D7,CHARACTER-1B2D8,CHARACTER-1B2D9,CHARACTER-1B2DA,CHARACTER-1B2DB,CHARACTER-1B2DC,
CHARACTER-1B2DD,CHARACTER-1B2DE,CHARACTER-1B2DF,CHARACTER-1B2E0,CHARACTER-1B2E1,CHARACTER-1B2E2,
CHARACTER-1B2E3,CHARACTER-1B2E4,CHARACTER-1B2E5,CHARACTER-1B2E6,CHARACTER-1B2E7,CHARACTER-1B2E8,
CHARACTER-1B2E9,CHARACTER-1B2EA,CHARACTER-1B2EB,CHARACTER-1B2EC,CHARACTER-1B2ED,CHARACTER-1B2EE,
CHARACTER-1B2EF,CHARACTER-1B2F0,CHARACTER-1B2F1,CHARACTER-1B2F2,CHARACTER-1B2F3,CHARACTER-1B2F4,
CHARACTER-1B2F5,CHARACTER-1B2F6,CHARACTER-1B2F7,CHARACTER-1B2F8,CHARACTER-1B2F9,CHARACTER-1B2FA,
CHARACTER-1B2FB;NUSHU ITERATION=MARK;NUT AND=BOLT;NYIAKENG PUACHUE HMONG=TONE-B,TONE-D,TONE-G,
TONE-J,TONE-M,TONE-S,TONE-V;NYIAKENG PUACHUE HMONG CIRCLED=CA;NYIAKENG PUACHUE HMONG DIGIT=EIGHT,
FIVE,FOUR,NINE,ONE,SEVEN,SIX,THREE,TWO,ZERO;NYIAKENG PUACHUE HMONG LETTER=A,AA,CA,DA,DLA,E,EE,FA,
GA,HA,HAH,I,KA,LA,MA,MLA,NA,NCA,NKA,NPA,NPLA,NQA,NRA,NTA,NTSA,NTXA,NYA,O,OO,PA,PLA,QA,RA,RRA,SA,TA,
TSA,TXA,U,VA,W,XA,XYA,YA,ZA;NYIAKENG PUACHUE HMONG LOGOGRAM=NYAJ;
NYIAKENG PUACHUE HMONG SIGN FOR=ANIMAL,INVERTEBRATE,LOCATION,PERSON,THING;
NYIAKENG PUACHUE HMONG SIGN XW=XW;NYIAKENG PUACHUE HMONG SYLLABLE=LENGTHENER;
OBJECT REPLACEMENT=CHARACTER;OBLIQUE=HYPHEN;OBLIQUE ANGLE OPENING=DOWN,UP;OBSERVER EYE=SYMBOL;
OCR=CHAIR,DASH,FORK,HOOK;OCR AMOUNT OF=CHECK;OCR BELT=BUCKLE;OCR BOW=TIE;
OCR BRANCH BANK=IDENTIFICATION;OCR CUSTOMER ACCOUNT=NUMBER;OCR DOUBLE=BACKSLASH;OCR INVERTED=FORK;
OCTAGONAL=SIGN;OFFICE=BUILDING;OGHAM FEATHER=MARK;OGHAM LETTER=AILM,BEITH,CEIRT,COLL,DAIR,EABHADH,
EADHADH,EAMHANCHOLL,FEARN,GORT,IFIN,IODHADH,LUIS,MUIN,NGEADAL,NION,ONN,OR,PEITH,RUIS,SAIL,STRAIF,
TINNE,UATH,UILLEANN,UR;OGHAM REVERSED FEATHER=MARK;OGHAM SPACE=MARK;OHM=SIGN;OIL=DRUM;OK HAND=SIGN;
OL CHIKI=AHAD,PHAARKAA,RELAA;OL CHIKI DIGIT=EIGHT,FIVE,FOUR,NINE,ONE,SEVEN,SIX,THREE,TWO,ZERO;
OL CHIKI GAAHLAA=TTUDDAAG;OL CHIKI LETTER=AAJ,AAK,AAM,AAW,AG,AL,ANG,AT,EDD,EN,EP,ERR,IH,INY,IR,IS,
LA,LAA,LE,LI,LO,LU,OB,OH,OTT,OV,UC,UD,UNN,UY;OL CHIKI MU=TTUDDAG;OL CHIKI MU-GAAHLAA=TTUDDAAG;
OL CHIKI PUNCTUATION=MUCAAD;OL CHIKI PUNCTUATION DOUBLE=MUCAAD;OLD=KEY;OLD CHINESE HOOK=MARK;
OLD CHINESE ITERATION=MARK;OLD HUNGARIAN CAPITAL LETTER=A,AA,AK,AMB,AND,E,EB,EC,ECH,ECS,ED,EE,EF,
EG,EGY,EH,EJ,EK,EL,ELY,EM,EMP,EN,ENC,ENT,ENY,EP,ER,ES,ESZ,ET,ETY,EV,EZ,EZS,I,II,O,OEE,OO,U,UNK,US,
UU;OLD HUNGARIAN CAPITAL LETTER CLOSE=E;OLD HUNGARIAN CAPITAL LETTER ENT-SHAPED=SIGN;
OLD HUNGARIAN CAPITAL LETTER NIKOLSBURG=OE,UE;OLD HUNGARIAN CAPITAL LETTER RUDIMENTA=OE,UE;
OLD HUNGARIAN CAPITAL LETTER SHORT=ER;OLD HUNGARIAN NUMBER=FIFTY,FIVE,ONE,TEN;
OLD HUNGARIAN NUMBER ONE=HUNDRED,THOUSAND;OLD HUNGARIAN SMALL LETTER=A,AA,AK,AMB,AND,E,EB,EC,ECH,
ECS,ED,EE,EF,EG,EGY,EH,EJ,EK,EL,ELY,EM,EMP,EN,ENC,ENT,ENY,EP,ER,ES,ESZ,ET,ETY,EV,EZ,EZS,I,II,O,OEE,
OO,U,UNK,US,UU;OLD HUNGARIAN SMALL LETTER CLOSE=E;OLD HUNGARIAN SMALL LETTER ENT-SHAPED=SIGN;
OLD HUNGARIAN SMALL LETTER NIKOLSBURG=OE,UE;OLD HUNGARIAN SMALL LETTER RUDIMENTA=OE,UE;
OLD HUNGARIAN SMALL LETTER SHORT=ER;OLD ITALIC LETTER=A,BE,CHE,DE,E,EF,EKS,EL,EM,EN,ER,ERS,ES,ESH,
ESS,HE,I,II,KA,KE,KHE,KU,O,PE,PHE,SHE,TE,THE,U,UU,VE,YE,ZE;OLD ITALIC LETTER NORTHERN=TSE;
OLD ITALIC LETTER SOUTHERN=TSE;OLD ITALIC NUMERAL=FIFTY,FIVE,ONE,TEN;OLD NORTH ARABIAN LETTER=AIN,
ALEF,BEH,DAD,DAL,ES-1,ES-2,ES-3,FEH,GEEM,GHAIN,HAH,HEH,KAF,KHAH,LAM,MEEM,NOON,QAF,REH,SAD,TAH,TEH,
THAL,THEH,WAW,YEH,ZAH,ZAIN;OLD NORTH ARABIAN NUMBER=ONE,TEN,TWENTY;OLD PERMIC LETTER=AN,BUR,CHERY,
DOI,DZHOI,DZITA,E,EF,GAI,HA,I,IA,IE,KOKE,LEI,MENOE,NENOE,O,OO,PEEI,REI,SHCHOOI,SHOOI,SII,TAI,TSIU,
U,VER,VOOI,YA,YAT,YER,YERI,YERU,YRY,YU,ZATA,ZHOI;OLD PERSIAN NUMBER=HUNDRED,ONE,TEN,TWENTY,TWO;
OLD PERSIAN SIGN=A,AURAMAZDAA,AURAMAZDAA-2,AURAMAZDAAHA,BA,BAGA,BUUMISH,CA,DA,DAHYAAUSH,
DAHYAAUSH-2,DI,DU,FA,GA,GU,HA,I,JA,JI,KA,KU,LA,MA,MI,MU,NA,NU,PA,RA,RU,SA,SHA,SSA,TA,THA,TU,U,VA,
VI,XA,XSHAAYATHIYA,YA,ZA;OLD PERSIAN WORD=DIVIDER;OLD PERSONAL=COMPUTER;
OLD SOGDIAN FRACTION ONE=HALF;OLD SOGDIAN LETTER=ALEPH,AYIN,BETH,GIMEL,HE,HETH,KAPH,LAMEDH,MEM,NUN,
PE,RESH-AYIN-DALETH,SADHE,SAMEKH,SHIN,TAW,WAW,YODH,ZAYIN;OLD SOGDIAN LETTER ALTERNATE=AYIN;
OLD SOGDIAN LETTER FINAL=ALEPH,BETH,HE,NUN,SADHE,TAW;
OLD SOGDIAN LETTER FINAL NUN WITH VERTICAL=TAIL;OLD SOGDIAN LETTER FINAL SADHE WITH VERTICAL=TAIL;
OLD SOGDIAN LETTER FINAL TAW WITH VERTICAL=TAIL;OLD SOGDIAN LIGATURE=AYIN-DALETH;
OLD SOGDIAN NUMBER=FIVE,FOUR,ONE,TEN,THIRTY,THREE,TWENTY,TWO;OLD SOGDIAN NUMBER ONE=HUNDRED;
OLD SOUTH ARABIAN LETTER=ALEF,AYN,BETH,DALETH,DHADHE,DHALETH,FE,GHAYN,GIMEL,HE,HETH,KAPH,KHETH,
LAMEDH,MEM,NUN,QOPH,RESH,SADHE,SAMEKH,SAT,SHIN,TAW,TETH,THAW,THETH,WAW,YODH,ZAYN;
OLD SOUTH ARABIAN NUMBER=FIFTY,ONE;OLD SOUTH ARABIAN NUMERIC=INDICATOR;OLD TURKIC LETTER ORKHON=A,
AB,AD,AEB,AED,AEG,AEK,AEL,AEN,AER,AES,AET,AEY,AG,AL,AN,AQ,AR,AS,ASH,AT,AY,BASH,EC,ELT,EM,ENC,ENG,
ENT,ENY,EP,ESH,EZ,I,IC,IQ,O,OE,OEK,OP,OQ,OT;OLD TURKIC LETTER YENISEI=A,AB,AD,AE,AEB,AEG,AEK,AEN,
AENG,AET,AEY,AG,AL,ANG,AQ,AR,ASH,AT,AY,E,EC,ENC,ENT,ENY,ESH,EZ,I,IQ,OE,OEK,OQ;
OLD UYGHUR COMBINING DOT=ABOVE,BELOW;OLD UYGHUR COMBINING TWO DOTS=ABOVE,BELOW;
OLD UYGHUR LETTER=ALEPH,BETH,GIMEL-HETH,KAPH,LAMEDH,LESH,MEM,NUN,PE,RESH,SADHE,SAMEKH,SHIN,TAW,WAW,
YODH,ZAYIN;OLD UYGHUR LETTER FINAL=HETH;OLD UYGHUR PUNCTUATION=BAR;
OLD UYGHUR PUNCTUATION FOUR=DOTS;OLD UYGHUR PUNCTUATION TWO=BARS,DOTS;OLDER=ADULT,MAN,WOMAN;
OM=SYMBOL;ON WITH EXCLAMATION MARK WITH LEFT RIGHT ARROW=ABOVE;ONCOMING=AUTOMOBILE,BUS,TAXI;
ONCOMING FIRE=ENGINE;ONCOMING POLICE=CAR;ONE BUTTON=MOUSE;ONE DOT=LEADER;
ONE DOT OVER TWO DOTS=PUNCTUATION;ONE-PIECE=SWIMSUIT;OPEN=BOOK,BOX,FOLDER,LOCK,SUBSET,SUPERSET;
OPEN CENTRE=ASTERISK,CROSS;OPEN CENTRE BLACK=STAR;OPEN CENTRE TEARDROP-SPOKED=ASTERISK;
OPEN FILE=FOLDER;OPEN HANDS=SIGN;OPEN MAILBOX WITH LOWERED=FLAG;OPEN MAILBOX WITH RAISED=FLAG;
OPEN-CIRCUIT-OUTPUT H-TYPE=SYMBOL;OPEN-CIRCUIT-OUTPUT L-TYPE=SYMBOL;OPEN-OUTLINED RIGHTWARDS=ARROW;
OPERATING SYSTEM=COMMAND;OPTICAL=DISC;OPTICAL DISC=ICON;OPTION=KEY;OR WITH DOT=INSIDE;ORANGE=BOOK,
HEART;ORIGINAL=OF;ORIYA=ISSHAR;ORIYA AI LENGTH=MARK;ORIYA AU LENGTH=MARK;ORIYA DIGIT=EIGHT,FIVE,
FOUR,NINE,ONE,SEVEN,SIX,THREE,TWO,ZERO;ORIYA FRACTION ONE=EIGHTH,HALF,QUARTER,SIXTEENTH;
ORIYA FRACTION THREE=QUARTERS,SIXTEENTHS;ORIYA LETTER=A,AA,AI,AU,BA,BHA,CA,CHA,DA,DDA,DDHA,DHA,E,
GA,GHA,HA,I,II,JA,JHA,KA,KHA,LA,LLA,MA,NA,NGA,NNA,NYA,O,PA,PHA,RA,RHA,RRA,SA,SHA,SSA,TA,THA,TTA,
TTHA,U,UU,VA,WA,YA,YYA;ORIYA LETTER VOCALIC=L,LL,R,RR;ORIYA SIGN=ANUSVARA,AVAGRAHA,CANDRABINDU,
NUKTA,OVERLINE,VIRAMA,VISARGA;ORIYA VOWEL SIGN=AA,AI,AU,E,I,II,O,U,UU;ORIYA VOWEL SIGN VOCALIC=L,
LL,R,RR;ORNATE LEFT=PARENTHESIS;ORNATE RIGHT=PARENTHESIS;ORTHODOX=CROSS;OSAGE CAPITAL LETTER=A,AH,
AI,AIN,BRA,CHA,DHA,E,EHCHA,EHKA,EHPA,EHTA,EHTSA,EIN,GHA,HA,HYA,I,KA,KHA,KYA,LA,MA,NA,O,OIN,PA,SA,
SHA,TA,TSA,TSHA,U,WA,ZA,ZHA;OSAGE SMALL LETTER=A,AH,AI,AIN,BRA,CHA,DHA,E,EHCHA,EHKA,EHPA,EHTA,
EHTSA,EIN,GHA,HA,HYA,I,KA,KHA,KYA,LA,MA,NA,O,OIN,PA,SA,SHA,TA,TSA,TSHA,U,WA,ZA,ZHA;
OSMANYA DIGIT=EIGHT,FIVE,FOUR,NINE,ONE,SEVEN,SIX,THREE,TWO,ZERO;OSMANYA LETTER=A,AA,ALEF,BA,CAYN,
DEEL,DHA,E,EE,FA,GA,HA,I,JA,KAAF,KHA,LAAN,MIIN,NUUN,O,OO,QAAF,RA,SA,SHIIN,TA,U,WAW,XA,YA;
OTTOMAN SIYAQ=MARRATAN;OTTOMAN SIYAQ ALTERNATE NUMBER=EIGHT,FIVE,FOUR,NINE,SEVEN,SIX,TEN,THREE,TWO;
OTTOMAN SIYAQ ALTERNATE NUMBER FOUR=HUNDRED;OTTOMAN SIYAQ ALTERNATE NUMBER SIX=HUNDRED;
OTTOMAN SIYAQ ALTERNATE NUMBER TEN=THOUSAND;OTTOMAN SIYAQ ALTERNATE NUMBER TWO=THOUSAND;
OTTOMAN SIYAQ FRACTION ONE=HALF,SIXTH;OTTOMAN SIYAQ NUMBER=EIGHT,EIGHTY,FIFTY,FIVE,FORTY,FOUR,NINE,
NINETY,ONE,SEVEN,SEVENTY,SIX,SIXTY,TEN,THIRTY,THREE,TWENTY,TWO;OTTOMAN SIYAQ NUMBER EIGHT=HUNDRED,
THOUSAND;OTTOMAN SIYAQ NUMBER EIGHTY=THOUSAND;OTTOMAN SIYAQ NUMBER FIFTY=THOUSAND;
OTTOMAN SIYAQ NUMBER FIVE=HUNDRED,THOUSAND;OTTOMAN SIYAQ NUMBER FORTY=THOUSAND;
OTTOMAN SIYAQ NUMBER FOUR=HUNDRED,THOUSAND;OTTOMAN SIYAQ NUMBER NINE=HUNDRED,THOUSAND;
OTTOMAN SIYAQ NUMBER NINETY=THOUSAND;OTTOMAN SIYAQ NUMBER ONE=HUNDRED,THOUSAND;
OTTOMAN SIYAQ NUMBER SEVEN=HUNDRED,THOUSAND;OTTOMAN SIYAQ NUMBER SEVENTY=THOUSAND;
OTTOMAN SIYAQ NUMBER SIX=HUNDRED,THOUSAND;OTTOMAN SIYAQ NUMBER SIXTY=THOUSAND;
OTTOMAN SIYAQ NUMBER TEN=THOUSAND;OTTOMAN SIYAQ NUMBER THIRTY=THOUSAND;
OTTOMAN SIYAQ NUMBER THREE=HUNDRED,THOUSAND;OTTOMAN SIYAQ NUMBER TWENTY=THOUSAND;
OTTOMAN SIYAQ NUMBER TWO=HUNDRED,THOUSAND;OUNCE=SIGN;OUTBOX=TRAY;OUTLINED BLACK=STAR;
OUTLINED GREEK=CROSS;OUTLINED LATIN=CROSS;OUTLINED WHITE=STAR;OVERHEATED=FACE;
OVERLAPPING BLACK=SQUARES;OVERLAPPING WHITE=SQUARES;OVERLAPPING WHITE AND BLACK=SQUARES;
PADDING=CHARACTER;PAGE FACING=UP;PAGE WITH=CURL;PAGE WITH CIRCLED=TEXT;PAHAWH HMONG CLAN SIGN=FAJ,
HAM,HAWJ,KHAB,KOO,KWM,LAUJ,LIS,MUAS,PHAB,THOJ,TSAB,TSHEEJ,TSWB,VAJ,VWJ,XYOOJ,YAJ,YEEG;
PAHAWH HMONG CONSONANT=AU,CAU,CHAU,HAU,HLAU,HNAU,LAU,MAU,NAU,NCHAU,NKAU,NLAU,NTHAU,NTSAU,PLHAU,
QHAU,RAU,VAU,XAU,YAU;PAHAWH HMONG DIGIT=EIGHT,FIVE,FOUR,NINE,ONE,SEVEN,SIX,THREE,TWO,ZERO;
PAHAWH HMONG MARK CIM=HOM,KES,KHAV,SO,SUAM,TAUM,TUB;PAHAWH HMONG NUMBER=HUNDREDS,MILLIONS,TENS,
TRILLIONS;PAHAWH HMONG NUMBER HUNDRED=MILLIONS;PAHAWH HMONG NUMBER TEN=BILLIONS,THOUSANDS;
PAHAWH HMONG SIGN=AV,HLI,HNUB,LOS,MUS,NQIG,NTUJ,TAU,XAUS,XIAB,XYOO;PAHAWH HMONG SIGN CIM=CHEEM,
TXWV;PAHAWH HMONG SIGN CIM CUAM=TSHOOJ;PAHAWH HMONG SIGN CIM HAIS LUS NTOG=NTOG;
PAHAWH HMONG SIGN CIM NRES=TOS;PAHAWH HMONG SIGN CIM PUB=DAWB;PAHAWH HMONG SIGN CIM TSOV=ROG;
PAHAWH HMONG SIGN CIM TXWV=CHWV;PAHAWH HMONG SIGN IB=YAM;PAHAWH HMONG SIGN MEEJ=SUAB,TSEEB;
PAHAWH HMONG SIGN THIRD-STAGE=HLI;PAHAWH HMONG SIGN TXHEEJ=CEEV;PAHAWH HMONG SIGN VOS=FEEM,LUB,
NRUA,SEEV,THIAB,THOM;PAHAWH HMONG SIGN VOS TSHAB=CEEB;PAHAWH HMONG SIGN XYEEM=FAIB,NTXIV,RHO,TOV;
PAHAWH HMONG SIGN ZWJ=THAJ;PAHAWH HMONG VOWEL=KAAB,KAAV,KAB,KAIB,KAIV,KAUB,KAUV,KAV,KAWB,KAWV,KEB,
KEEB,KEEV,KEV,KIAB,KIAV,KIB,KIV,KOB,KOOB,KOOV,KOV,KUAB,KUAV,KUB,KUV,KWB,KWV;PALM=BRANCH,TREE;
PALM DOWN=HAND;PALM UP=HAND;PALMS UP=TOGETHER;PALMYRENE LEFT-POINTING=FLEURON;
PALMYRENE LETTER=ALEPH,AYIN,BETH,DALETH,GIMEL,HE,HETH,KAPH,LAMEDH,MEM,NUN,PE,QOPH,RESH,SADHE,
SAMEKH,SHIN,TAW,TETH,WAW,YODH,ZAYIN;PALMYRENE LETTER FINAL=NUN;PALMYRENE NUMBER=FIVE,FOUR,ONE,TEN,
THREE,TWENTY,TWO;PALMYRENE RIGHT-POINTING=FLEURON;PANDA=FACE;PARAGRAPH=SEPARATOR;PARAGRAPHUS=MARK;
PARALLEL=TO;PARALLEL WITH HORIZONTAL=STROKE;PARALLEL WITH TILDE=OPERATOR;PARENTHESIZED DIGIT=EIGHT,
FIVE,FOUR,NINE,ONE,SEVEN,SIX,THREE,TWO;PARENTHESIZED HANGUL=CHIEUCH,CIEUC,HIEUH,IEUNG,KHIEUKH,
KIYEOK,MIEUM,NIEUN,PHIEUPH,PIEUP,RIEUL,SIOS,THIEUTH,TIKEUT;PARENTHESIZED HANGUL CHIEUCH=A;
PARENTHESIZED HANGUL CIEUC=A,U;PARENTHESIZED HANGUL HIEUH=A;PARENTHESIZED HANGUL IEUNG=A;
PARENTHESIZED HANGUL KHIEUKH=A;PARENTHESIZED HANGUL KIYEOK=A;PARENTHESIZED HANGUL MIEUM=A;
PARENTHESIZED HANGUL NIEUN=A;PARENTHESIZED HANGUL PHIEUPH=A;PARENTHESIZED HANGUL PIEUP=A;
PARENTHESIZED HANGUL RIEUL=A;PARENTHESIZED HANGUL SIOS=A;PARENTHESIZED HANGUL THIEUTH=A;
PARENTHESIZED HANGUL TIKEUT=A;PARENTHESIZED IDEOGRAPH=ALLIANCE,CALL,CONGRATULATION,EARTH,EIGHT,
ENTERPRISE,FESTIVAL,FINANCIAL,FIRE,FIVE,FOUR,HAVE,LABOR,METAL,MOON,NAME,NINE,ONE,REACH,REPRESENT,
RESOURCE,REST,SELF,SEVEN,SIX,SOCIETY,SPECIAL,STOCK,STUDY,SUN,SUPERVISE,TEN,THREE,TWO,WATER,WOOD;
PARENTHESIZED KOREAN CHARACTER=OJEON;PARENTHESIZED KOREAN CHARACTER O=HU;
PARENTHESIZED LATIN CAPITAL LETTER=A,B,C,D,E,F,G,H,I,J,K,L,M,N,O,P,Q,R,S,T,U,V,W,X,Y,Z;
PARENTHESIZED LATIN SMALL LETTER=A,B,C,D,E,F,G,H,I,J,K,L,M,N,O,P,Q,R,S,T,U,V,W,X,Y,Z;
PARENTHESIZED NUMBER=EIGHTEEN,ELEVEN,FIFTEEN,FOURTEEN,NINETEEN,SEVENTEEN,SIXTEEN,TEN,THIRTEEN,
TWELVE,TWENTY;PART ALTERNATION=MARK;PARTIAL=DIFFERENTIAL;PARTIAL LINE=BACKWARD,DOWN,FORWARD,UP;
PARTIALLY-RECYCLED PAPER=SYMBOL;PARTNERSHIP=SIGN;PARTY=POPPER;PASSED=SYMBOL;PASSENGER=SHIP;
PASSIVE-PULL-DOWN-OUTPUT=SYMBOL;PASSIVE-PULL-UP-OUTPUT=SYMBOL;PASSPORT=CONTROL;
PAU CIN HAU GLOTTAL=STOP;PAU CIN HAU GLOTTAL STOP=FINAL,VARIANT;PAU CIN HAU LETTER=A,BA,CA,CHA,DA,
E,FA,GA,HA,I,IA,KA,KHA,LA,MA,NA,NGA,O,PA,PHA,RA,SA,TA,THA,U,UA,VA,ZA;PAU CIN HAU LETTER FINAL=K,L,
M,N,NG,P,T,W,Y;PAU CIN HAU LOW-FALLING=TONE;PAU CIN HAU LOW-FALLING TONE=FINAL,LONG;
PAU CIN HAU LOW-FALLING TONE LONG=FINAL;PAU CIN HAU MID-LEVEL=TONE;
PAU CIN HAU MID-LEVEL TONE=FINAL;PAU CIN HAU MID-LEVEL TONE LONG=FINAL;PAU CIN HAU RISING=TONE;
PAU CIN HAU RISING TONE=FINAL,LONG;PAU CIN HAU RISING TONE LONG=FINAL;PAU CIN HAU SANDHI=TONE;
PAU CIN HAU SANDHI GLOTTAL=STOP;PAU CIN HAU SANDHI GLOTTAL STOP=FINAL;
PAU CIN HAU SANDHI TONE=FINAL,LONG;PAU CIN HAU SANDHI TONE LONG=FINAL;PAW=PRINTS;PEACE=SYMBOL;
PEN OVER STAMPED=ENVELOPE;PENSIVE=FACE;PEOPLE=HUGGING;PER=SIGN;PER MILLE=SIGN;
PER TEN THOUSAND=SIGN;PERCENT=SIGN;PERFORMING=ARTS;PERMANENT PAPER=SIGN;PERPENDICULAR WITH=S;
PERSEVERING=FACE;PERSON=CLIMBING,FROWNING;PERSON BOWING=DEEPLY;PERSON DOING=CARTWHEEL;
PERSON IN LOTUS=POSITION;PERSON IN STEAMY=ROOM;PERSON RAISING BOTH HANDS IN=CELEBRATION;
PERSON WITH=BALL,CROWN,HEADSCARF;PERSON WITH BLOND=HAIR;PERSON WITH FOLDED=HANDS;
PERSON WITH POUTING=FACE;PERSONAL=COMPUTER;PESETA=SIGN;PESO=SIGN;PETRI=DISH;
PHAGS-PA DOUBLE HEAD=MARK;PHAGS-PA LETTER=A,BA,CA,CANDRABINDU,CHA,DA,DDA,DZA,E,EE,FA,GA,GGA,HA,I,
JA,KA,KHA,LA,MA,NA,NGA,NNA,NYA,O,PA,PHA,QA,RA,SA,SHA,TA,THA,TSA,TSHA,TTA,TTHA,U,WA,XA,YA,ZA,ZHA;
PHAGS-PA LETTER ALTERNATE=YA;PHAGS-PA LETTER ASPIRATED=FA;PHAGS-PA LETTER SMALL=A;
PHAGS-PA LETTER VOICED=HA;PHAGS-PA LETTER VOICELESS=SHA;PHAGS-PA MARK=SHAD;
PHAGS-PA MARK DOUBLE=SHAD;PHAGS-PA SINGLE HEAD=MARK;PHAGS-PA SUBJOINED LETTER=RA,WA,YA;
PHAGS-PA SUPERFIXED LETTER=RA;PHAISTOS DISC SIGN=ARROW,BEE,BEEHIVE,BOOMERANG,BOW,CAPTIVE,CAT,CHILD,
CLUB,COLUMN,COMB,DOLIUM,DOVE,EAGLE,FLUTE,GAUNTLET,GRATER,HELMET,HIDE,HORN,LID,LILY,MANACLES,
MATTOCK,PAPYRUS,PEDESTRIAN,RAM,ROSETTE,SAW,SHIELD,SHIP,SLING,STRAINER,TIARA,TUNNY,VINE,WOMAN;
PHAISTOS DISC SIGN BULLS=LEG;PHAISTOS DISC SIGN CARPENTRY=PLANE;
PHAISTOS DISC SIGN COMBINING OBLIQUE=STROKE;PHAISTOS DISC SIGN OX=BACK;
PHAISTOS DISC SIGN PLANE=TREE;PHAISTOS DISC SIGN PLUMED=HEAD;PHAISTOS DISC SIGN SMALL=AXE;
PHAISTOS DISC SIGN TATTOOED=HEAD;PHAISTOS DISC SIGN WAVY=BAND;PHILIPPINE DOUBLE=PUNCTUATION;
PHILIPPINE SINGLE=PUNCTUATION;PHOENICIAN LETTER=AIN,ALF,BET,DELT,GAML,HE,HET,KAF,LAMD,MEM,NUN,PE,
QOF,ROSH,SADE,SEMK,SHIN,TAU,TET,WAU,YOD,ZAI;PHOENICIAN NUMBER=ONE,TEN,THREE,TWENTY,TWO;
PHOENICIAN NUMBER ONE=HUNDRED;PHOENICIAN WORD=SEPARATOR;PICKUP=TRUCK;PIG=FACE,NOSE;PILCROW=SIGN;
PILE OF=POO;PINCHED=FINGERS;PINCHING=HAND;PINE=DECORATION;PINWHEEL=STAR;PITCHFORK WITH TEE=TOP;
PLACE OF=WORSHIP;PLACE OF INTEREST=SIGN;PLANCK=CONSTANT;PLANCK CONSTANT OVER TWO=PI;
PLAYGROUND=SLIDE;PLAYING CARD=BACK,FOOL,TRUMP-1,TRUMP-10,TRUMP-11,TRUMP-12,TRUMP-13,TRUMP-14,
TRUMP-15,TRUMP-16,TRUMP-17,TRUMP-18,TRUMP-19,TRUMP-2,TRUMP-20,TRUMP-21,TRUMP-3,TRUMP-4,TRUMP-5,
TRUMP-6,TRUMP-7,TRUMP-8,TRUMP-9;PLAYING CARD ACE OF=CLUBS,DIAMONDS,HEARTS,SPADES;
PLAYING CARD BLACK=JOKER;PLAYING CARD EIGHT OF=CLUBS,DIAMONDS,HEARTS,SPADES;
PLAYING CARD FIVE OF=CLUBS,DIAMONDS,HEARTS,SPADES;PLAYING CARD FOUR OF=CLUBS,DIAMONDS,HEARTS,
SPADES;PLAYING CARD JACK OF=CLUBS,DIAMONDS,HEARTS,SPADES;PLAYING CARD KING OF=CLUBS,DIAMONDS,
HEARTS,SPADES;PLAYING CARD KNIGHT OF=CLUBS,DIAMONDS,HEARTS,SPADES;PLAYING CARD NINE OF=CLUBS,
DIAMONDS,HEARTS,SPADES;PLAYING CARD QUEEN OF=CLUBS,DIAMONDS,HEARTS,SPADES;PLAYING CARD RED=JOKER;
PLAYING CARD SEVEN OF=CLUBS,DIAMONDS,HEARTS,SPADES;PLAYING CARD SIX OF=CLUBS,DIAMONDS,HEARTS,
SPADES;PLAYING CARD TEN OF=CLUBS,DIAMONDS,HEARTS,SPADES;PLAYING CARD THREE OF=CLUBS,DIAMONDS,
HEARTS,SPADES;PLAYING CARD TWO OF=CLUBS,DIAMONDS,HEARTS,SPADES;PLAYING CARD WHITE=JOKER;PLUS=SIGN;
PLUS SIGN ABOVE EQUALS=SIGN;PLUS SIGN IN=TRIANGLE;PLUS SIGN IN LEFT HALF=CIRCLE;
PLUS SIGN IN RIGHT HALF=CIRCLE;PLUS SIGN WITH BLACK=TRIANGLE;
PLUS SIGN WITH CIRCUMFLEX ACCENT=ABOVE;PLUS SIGN WITH DOT=BELOW;PLUS SIGN WITH SMALL CIRCLE=ABOVE;
PLUS SIGN WITH SUBSCRIPT=TWO;PLUS SIGN WITH TILDE=ABOVE,BELOW;PLUS-MINUS=SIGN;PLUTO FORM=FIVE,FOUR,
THREE,TWO;POCKET=CALCULATOR;POLICE=CAR,OFFICER;POLICE CARS REVOLVING=LIGHT;
POP DIRECTIONAL=FORMATTING,ISOLATE;PORTABLE=STEREO;POSITION=INDICATOR;POSTAL=HORN,MARK;
POSTAL MARK=FACE;POT OF=FOOD;POTABLE WATER=SYMBOL;POTTED=PLANT;POULTRY=LEG;POUND=SIGN;
POURING=LIQUID;POUTING=FACE;POUTING CAT=FACE;POWER=SYMBOL;POWER ON=SYMBOL;POWER ON-OFF=SYMBOL;
POWER SLEEP=SYMBOL;PRAYER=BEADS;PRECEDES ABOVE ALMOST EQUAL=TO;PRECEDES ABOVE EQUALS=SIGN;
PRECEDES ABOVE NOT ALMOST EQUAL=TO;PRECEDES ABOVE NOT EQUAL=TO;
PRECEDES ABOVE SINGLE-LINE EQUALS=SIGN;PRECEDES ABOVE SINGLE-LINE NOT EQUAL=TO;
PRECEDES BUT NOT EQUIVALENT=TO;PRECEDES OR EQUAL=TO;PRECEDES OR EQUIVALENT=TO;
PRECEDES UNDER=RELATION;PREGNANT=MAN,PERSON,WOMAN;PRESCRIPTION=TAKE;
PRESENTATION FORM FOR VERTICAL=COLON,COMMA,SEMICOLON;PRESENTATION FORM FOR VERTICAL EM=DASH;
PRESENTATION FORM FOR VERTICAL EN=DASH;PRESENTATION FORM FOR VERTICAL EXCLAMATION=MARK;
PRESENTATION FORM FOR VERTICAL HORIZONTAL=ELLIPSIS;
PRESENTATION FORM FOR VERTICAL IDEOGRAPHIC=COMMA;
PRESENTATION FORM FOR VERTICAL IDEOGRAPHIC FULL=STOP;
PRESENTATION FORM FOR VERTICAL LEFT=PARENTHESIS;PRESENTATION FORM FOR VERTICAL LEFT ANGLE=BRACKET;
PRESENTATION FORM FOR VERTICAL LEFT BLACK LENTICULAR=BRACKET;
PRESENTATION FORM FOR VERTICAL LEFT CORNER=BRACKET;
PRESENTATION FORM FOR VERTICAL LEFT CURLY=BRACKET;
PRESENTATION FORM FOR VERTICAL LEFT DOUBLE ANGLE=BRACKET;
PRESENTATION FORM FOR VERTICAL LEFT SQUARE=BRACKET;
PRESENTATION FORM FOR VERTICAL LEFT TORTOISE SHELL=BRACKET;
PRESENTATION FORM FOR VERTICAL LEFT WHITE CORNER=BRACKET;
PRESENTATION FORM FOR VERTICAL LEFT WHITE LENTICULAR=BRACKET;
PRESENTATION FORM FOR VERTICAL LOW=LINE;PRESENTATION FORM FOR VERTICAL QUESTION=MARK;
PRESENTATION FORM FOR VERTICAL RIGHT=PARENTHESIS;
PRESENTATION FORM FOR VERTICAL RIGHT ANGLE=BRACKET;
PRESENTATION FORM FOR VERTICAL RIGHT BLACK LENTICULAR=BRACKET;
PRESENTATION FORM FOR VERTICAL RIGHT CORNER=BRACKET;
PRESENTATION FORM FOR VERTICAL RIGHT CURLY=BRACKET;
PRESENTATION FORM FOR VERTICAL RIGHT DOUBLE ANGLE=BRACKET;
PRESENTATION FORM FOR VERTICAL RIGHT SQUARE=BRACKET;
PRESENTATION FORM FOR VERTICAL RIGHT TORTOISE SHELL=BRACKET;
PRESENTATION FORM FOR VERTICAL RIGHT WHITE CORNER=BRACKET;
PRESENTATION FORM FOR VERTICAL RIGHT WHITE LENTICULAR=BRACKET,BRAKCET;
PRESENTATION FORM FOR VERTICAL TWO DOT=LEADER;PRESENTATION FORM FOR VERTICAL WAVY LOW=LINE;
PREVIOUS=PAGE;PRINT SCREEN=SYMBOL;PRINTER=ICON;PRIVACY=MESSAGE;PRIVATE=USE-1,USE-2;PRIVATE USE=ONE,
TWO;PROBING=CANE;PROHIBITED=SIGN;PROPERTY=LINE;PROPORTIONAL=TO;
PSALTER PAHLAVI FOUR DOTS WITH=CROSS,DOT;PSALTER PAHLAVI LETTER=ALEPH,BETH,DALETH,GIMEL,HE,HETH,
KAPH,LAMEDH,MEM-QOPH,NUN,PE,SADHE,SAMEKH,SHIN,TAW,WAW-AYIN-RESH,YODH,ZAYIN;
PSALTER PAHLAVI NUMBER=FOUR,ONE,TEN,THREE,TWENTY,TWO;PSALTER PAHLAVI NUMBER ONE=HUNDRED;
PSALTER PAHLAVI SECTION=MARK;PSALTER PAHLAVI TURNED SECTION=MARK;PUBLIC ADDRESS=LOUDSPEAKER;
PUNCTUATION=SPACE;PUNCTUS ELEVATUS=MARK;PURPLE=HEART;PUT LITTER IN ITS PLACE=SYMBOL;
QUADRANT LOWER=LEFT,RIGHT;QUADRANT UPPER=LEFT,RIGHT;QUADRANT UPPER LEFT AND LOWER=RIGHT;
QUADRANT UPPER LEFT AND LOWER LEFT AND LOWER=RIGHT;
QUADRANT UPPER LEFT AND UPPER RIGHT AND LOWER=LEFT,RIGHT;QUADRANT UPPER RIGHT AND LOWER=LEFT;
QUADRANT UPPER RIGHT AND LOWER LEFT AND LOWER=RIGHT;QUADRUPLE=PRIME;QUADRUPLE INTEGRAL=OPERATOR;
QUARTER=NOTE;QUATERNION INTEGRAL=OPERATOR;QUESTION=MARK;QUESTION EXCLAMATION=MARK;
QUESTIONED EQUAL=TO;QUOTATION=MARK;RABBIT=FACE;RACING=CAR,MOTORCYCLE;RADICAL SYMBOL=BOTTOM;
RADIO=BUTTON;RADIOACTIVE=SIGN;RAILWAY=CAR,TRACK;RAISED=COMMA,DOT,FIST,HAND,SQUARE;
RAISED BACK OF=HAND;RAISED DOTTED INTERPOLATION=MARKER;RAISED HAND WITH FINGERS=SPLAYED;
RAISED HAND WITH PART BETWEEN MIDDLE AND RING=FINGERS;RAISED INTERPOLATION=MARKER;RAISED MC=SIGN;
RAISED MD=SIGN;RAISED MR=SIGN;RECORD=SEPARATOR;RECREATIONAL=VEHICLE;RECYCLED PAPER=SYMBOL;
RECYCLING SYMBOL FOR GENERIC=MATERIALS;RECYCLING SYMBOL FOR TYPE-1=PLASTICS;
RECYCLING SYMBOL FOR TYPE-2=PLASTICS;RECYCLING SYMBOL FOR TYPE-3=PLASTICS;
RECYCLING SYMBOL FOR TYPE-4=PLASTICS;RECYCLING SYMBOL FOR TYPE-5=PLASTICS;
RECYCLING SYMBOL FOR TYPE-6=PLASTICS;RECYCLING SYMBOL FOR TYPE-7=PLASTICS;RED=APPLE;
RED GIFT=ENVELOPE;REFERENCE=MARK;REGIONAL INDICATOR SYMBOL LETTER=A,B,C,D,E,F,G,H,I,J,K,L,M,N,O,P,
Q,R,S,T,U,V,W,X,Y,Z;REGISTERED=SIGN;REJANG=VIRAMA;REJANG CONSONANT SIGN=H,N,NG,R;REJANG LETTER=A,
BA,CA,DA,GA,HA,JA,KA,LA,MA,MBA,NA,NDA,NGA,NGGA,NYA,NYJA,PA,RA,SA,TA,WA,YA;REJANG SECTION=MARK;
REJANG VOWEL SIGN=AI,AU,E,EA,EU,I,O,U;RELIEVED=FACE;REMINDER=RIBBON;REPLACEMENT=CHARACTER;
RESTRICTED LEFT=ENTRY-1,ENTRY-2;RETURN=LEFT,RIGHT,SYMBOL;REVERSE=INDEX,SOLIDUS;
REVERSE CHECKER=BOARD;REVERSE LIGHT FOUR POINTED PINWHEEL=STAR;REVERSE LINE=FEED;
REVERSE SOLIDUS=OPERATOR;REVERSE SOLIDUS PRECEDING=SUBSET;REVERSE SOLIDUS WITH HORIZONTAL=STROKE;
REVERSE TILDE OPERATOR ABOVE LEFTWARDS=ARROW;REVERSE TILDE OPERATOR ABOVE RIGHTWARDS=ARROW;
REVERSED=ANGLE,COMMA,PRIME,SEMICOLON,TILDE;REVERSED ANGLE WITH=UNDERBAR;REVERSED DOUBLE=PRIME;
REVERSED DOUBLE PRIME QUOTATION=MARK;REVERSED DOUBLE STROKE NOT=SIGN;REVERSED EMPTY=SET;
REVERSED FORKED=PARAGRAPHOS;REVERSED HAND WITH MIDDLE FINGER=EXTENDED;REVERSED NOT=SIGN;
REVERSED PILCROW=SIGN;REVERSED QUESTION=MARK;REVERSED RAISED HAND WITH FINGERS=SPLAYED;
REVERSED RIGHT=ANGLE;REVERSED ROTATED FLORAL HEART=BULLET;REVERSED SANS-SERIF CAPITAL=L;
REVERSED THUMBS DOWN=SIGN;REVERSED THUMBS UP=SIGN;REVERSED TILDE=EQUALS;REVERSED TRIPLE=PRIME;
REVERSED VICTORY=HAND;REVOLVING=HEARTS;RIAL=SIGN;RIBBON ARROW DOWN=LEFT,RIGHT;
RIBBON ARROW LEFT=DOWN,UP;RIBBON ARROW RIGHT=DOWN,UP;RIBBON ARROW UP=LEFT,RIGHT;RICE=BALL,CRACKER;
RIGHT=ANGLE,CEILING,FLOOR,PARENTHESIS,SPEAKER,TACK,TRIANGLE;RIGHT AND LOWER ONE EIGHTH=BLOCK;
RIGHT AND UPPER ONE EIGHTH=BLOCK;RIGHT ANGER=BUBBLE;RIGHT ANGLE=BRACKET;
RIGHT ANGLE BRACKET WITH=DOT;RIGHT ANGLE DOTTED SUBSTITUTION=MARKER;
RIGHT ANGLE SUBSTITUTION=MARKER;RIGHT ANGLE VARIANT WITH=SQUARE;RIGHT ANGLE WITH=ARC;
RIGHT ANGLE WITH DOWNWARDS ZIGZAG=ARROW;RIGHT ARC GREATER-THAN=BRACKET;
RIGHT ARROW WITH CIRCLED=PLUS;RIGHT ARROW WITH SMALL=CIRCLE;RIGHT BLACK LENTICULAR=BRACKET;
RIGHT BLACK TORTOISE SHELL=BRACKET;RIGHT CORNER=BRACKET;RIGHT CURLY=BRACKET;
RIGHT CURLY BRACKET LOWER=HOOK;RIGHT CURLY BRACKET MIDDLE=PIECE;RIGHT CURLY BRACKET UPPER=HOOK;
RIGHT DOTTED SUBSTITUTION=BRACKET;RIGHT DOUBLE=PARENTHESIS;RIGHT DOUBLE ANGLE=BRACKET;
RIGHT DOUBLE ARROW WITH ROUNDED=HEAD;RIGHT DOUBLE QUOTATION=MARK;RIGHT DOUBLE WIGGLY=FENCE;
RIGHT FISH=TAIL;RIGHT FIVE EIGHTHS=BLOCK;RIGHT HALF=BLOCK,FOLDER;RIGHT HALF BLACK=CIRCLE,STAR;
RIGHT HALF MEDIUM=SHADE;RIGHT HALF RUNNING=MAN;RIGHT HAND TELEPHONE=RECEIVER;
RIGHT LOW PARAPHRASE=BRACKET;RIGHT NORMAL FACTOR SEMIDIRECT=PRODUCT;RIGHT ONE EIGHTH=BLOCK;
RIGHT ONE QUARTER=BLOCK;RIGHT OPEN SQUARED=DOT;RIGHT OUTER=JOIN;RIGHT PARENTHESIS=EXTENSION;
RIGHT PARENTHESIS LOWER=HOOK;RIGHT PARENTHESIS UPPER=HOOK;RIGHT RAISED OMISSION=BRACKET;
RIGHT S-SHAPED BAG=DELIMITER;RIGHT SEMIDIRECT=PRODUCT;RIGHT SEVEN EIGHTHS=BLOCK;
RIGHT SIDEWAYS U=BRACKET;RIGHT SINGLE QUOTATION=MARK;RIGHT SPEAKER WITH ONE SOUND=WAVE;
RIGHT SPEAKER WITH THREE SOUND=WAVES;RIGHT SPEECH=BUBBLE;RIGHT SQUARE=BRACKET;
RIGHT SQUARE BRACKET=EXTENSION;RIGHT SQUARE BRACKET LOWER=CORNER;RIGHT SQUARE BRACKET UPPER=CORNER;
RIGHT SQUARE BRACKET WITH=QUILL,STROKE,UNDERBAR;RIGHT SQUARE BRACKET WITH DOUBLE=STROKE;
RIGHT SQUARE BRACKET WITH TICK IN BOTTOM=CORNER;RIGHT SQUARE BRACKET WITH TICK IN TOP=CORNER;
RIGHT SUBSTITUTION=BRACKET;RIGHT THIRD WHITE RIGHT POINTING=INDEX;RIGHT THOUGHT=BUBBLE;
RIGHT THREE EIGHTHS=BLOCK;RIGHT THREE QUARTERS=BLOCK;RIGHT TORTOISE SHELL=BRACKET;
RIGHT TRANSPOSITION=BRACKET;RIGHT TRIANGLE ABOVE LEFT=TRIANGLE;RIGHT TRIANGULAR ONE QUARTER=BLOCK;
RIGHT VERTICAL BAR WITH=QUILL;RIGHT VERTICAL BOX=LINE;RIGHT WHITE=PARENTHESIS;
RIGHT WHITE CORNER=BRACKET;RIGHT WHITE CURLY=BRACKET;RIGHT WHITE LENTICULAR=BRACKET;
RIGHT WHITE SQUARE=BRACKET;RIGHT WHITE TORTOISE SHELL=BRACKET;RIGHT WIGGLY=FENCE;RIGHT-FACING=FIST;
RIGHT-FACING ARMENIAN ETERNITY=SIGN;RIGHT-FACING SVASTI=SIGN;RIGHT-FACING SVASTI SIGN WITH=DOTS;
RIGHT-HANDED INTERLACED=PENTAGRAM;RIGHT-POINTING ANGLE=BRACKET;RIGHT-POINTING CURVED ANGLE=BRACKET;
RIGHT-POINTING DOUBLE ANGLE QUOTATION=MARK;RIGHT-POINTING MAGNIFYING=GLASS;
RIGHT-SHADED WHITE RIGHTWARDS=ARROW;RIGHT-SIDE ARC CLOCKWISE=ARROW;RIGHT-TO-LEFT=EMBEDDING,ISOLATE,
MARK,OVERRIDE;RIGHTHAND INTERIOR=PRODUCT;RIGHTWARDS=ARROW,ARROW-TAIL,HAND,ROCKET;
RIGHTWARDS ARROW ABOVE ALMOST EQUAL=TO;RIGHTWARDS ARROW ABOVE REVERSE ALMOST EQUAL=TO;
RIGHTWARDS ARROW ABOVE REVERSE TILDE=OPERATOR;RIGHTWARDS ARROW ABOVE SHORT LEFTWARDS=ARROW;
RIGHTWARDS ARROW ABOVE TILDE=OPERATOR;RIGHTWARDS ARROW AND UPPER AND LOWER ONE EIGHTH=BLOCK;
RIGHTWARDS ARROW FROM=BAR;RIGHTWARDS ARROW FROM BAR TO BLACK=DIAMOND;
RIGHTWARDS ARROW OVER LEFTWARDS=ARROW;RIGHTWARDS ARROW THROUGH=GREATER-THAN,SUPERSET,X;
RIGHTWARDS ARROW TO=BAR;RIGHTWARDS ARROW TO BLACK=DIAMOND;RIGHTWARDS ARROW WITH=HOOK,LOOP,STROKE,
TAIL;RIGHTWARDS ARROW WITH CORNER=DOWNWARDS;RIGHTWARDS ARROW WITH DOTTED=STEM;
RIGHTWARDS ARROW WITH DOUBLE VERTICAL=STROKE;RIGHTWARDS ARROW WITH EQUILATERAL=ARROWHEAD;
RIGHTWARDS ARROW WITH LARGE TRIANGLE=ARROWHEAD;RIGHTWARDS ARROW WITH MEDIUM TRIANGLE=ARROWHEAD;
RIGHTWARDS ARROW WITH NOTCHED=TAIL;RIGHTWARDS ARROW WITH PLUS=BELOW;
RIGHTWARDS ARROW WITH SMALL EQUILATERAL=ARROWHEAD;RIGHTWARDS ARROW WITH SMALL TRIANGLE=ARROWHEAD;
RIGHTWARDS ARROW WITH TAIL WITH DOUBLE VERTICAL=STROKE;
RIGHTWARDS ARROW WITH TAIL WITH VERTICAL=STROKE;RIGHTWARDS ARROW WITH TIP=DOWNWARDS,UPWARDS;
RIGHTWARDS ARROW WITH VERTICAL=STROKE;RIGHTWARDS BACK-TILTED SHADOWED WHITE=ARROW;
RIGHTWARDS BLACK=ARROW;RIGHTWARDS BLACK CIRCLED WHITE=ARROW;RIGHTWARDS BOTTOM SHADED WHITE=ARROW;
RIGHTWARDS COMPRESSED=ARROW;RIGHTWARDS DASHED=ARROW;RIGHTWARDS DOUBLE=ARROW,ARROW-TAIL;
RIGHTWARDS DOUBLE ARROW FROM=BAR;RIGHTWARDS DOUBLE ARROW WITH=STROKE;
RIGHTWARDS DOUBLE ARROW WITH VERTICAL=STROKE;RIGHTWARDS DOUBLE DASH=ARROW;
RIGHTWARDS FINGER-POST=ARROW;RIGHTWARDS FRONT-TILTED SHADOWED WHITE=ARROW;
RIGHTWARDS HARPOON OVER LEFTWARDS=HARPOON;RIGHTWARDS HARPOON WITH BARB=DOWNWARDS,UPWARDS;
RIGHTWARDS HARPOON WITH BARB DOWN ABOVE LEFTWARDS HARPOON WITH BARB=DOWN;
RIGHTWARDS HARPOON WITH BARB DOWN BELOW LONG=DASH;RIGHTWARDS HARPOON WITH BARB DOWN FROM=BAR;
RIGHTWARDS HARPOON WITH BARB DOWN TO=BAR;
RIGHTWARDS HARPOON WITH BARB UP ABOVE LEFTWARDS HARPOON WITH BARB=UP;
RIGHTWARDS HARPOON WITH BARB UP ABOVE LONG=DASH;
RIGHTWARDS HARPOON WITH BARB UP ABOVE RIGHTWARDS HARPOON WITH BARB=DOWN;
RIGHTWARDS HARPOON WITH BARB UP FROM=BAR;RIGHTWARDS HARPOON WITH BARB UP TO=BAR;
RIGHTWARDS HEAVY=ARROW;RIGHTWARDS HEAVY COMPRESSED=ARROW;RIGHTWARDS LEFT-SHADED WHITE=ARROW;
RIGHTWARDS OPEN-HEADED=ARROW;RIGHTWARDS PAIRED=ARROWS;RIGHTWARDS QUADRUPLE=ARROW;
RIGHTWARDS RIGHT-SHADED WHITE=ARROW;RIGHTWARDS SANS-SERIF=ARROW;RIGHTWARDS SQUARED=ARROW;
RIGHTWARDS SQUIGGLE=ARROW;RIGHTWARDS TOP SHADED WHITE=ARROW;RIGHTWARDS TRIANGLE=ARROWHEAD;
RIGHTWARDS TRIANGLE-HEADED=ARROW;
RIGHTWARDS TRIANGLE-HEADED ARROW OVER LEFTWARDS TRIANGLE-HEADED=ARROW;
RIGHTWARDS TRIANGLE-HEADED ARROW TO=BAR;RIGHTWARDS TRIANGLE-HEADED ARROW WITH BOLD=SHAFT;
RIGHTWARDS TRIANGLE-HEADED ARROW WITH DOUBLE HORIZONTAL=STROKE;
RIGHTWARDS TRIANGLE-HEADED ARROW WITH DOUBLE VERTICAL=STROKE;
RIGHTWARDS TRIANGLE-HEADED ARROW WITH HEAVY=SHAFT;
RIGHTWARDS TRIANGLE-HEADED ARROW WITH LONG TIP=DOWNWARDS,UPWARDS;
RIGHTWARDS TRIANGLE-HEADED ARROW WITH MEDIUM=SHAFT;
RIGHTWARDS TRIANGLE-HEADED ARROW WITH NARROW=SHAFT;
RIGHTWARDS TRIANGLE-HEADED ARROW WITH VERY HEAVY=SHAFT;RIGHTWARDS TRIANGLE-HEADED DASHED=ARROW;
RIGHTWARDS TRIANGLE-HEADED PAIRED=ARROWS;RIGHTWARDS TRIPLE=ARROW;RIGHTWARDS TRIPLE DASH=ARROW;
RIGHTWARDS TWO HEADED=ARROW;RIGHTWARDS TWO-HEADED ARROW FROM=BAR;
RIGHTWARDS TWO-HEADED ARROW WITH=TAIL;RIGHTWARDS TWO-HEADED ARROW WITH DOUBLE VERTICAL=STROKE;
RIGHTWARDS TWO-HEADED ARROW WITH TAIL WITH DOUBLE VERTICAL=STROKE;
RIGHTWARDS TWO-HEADED ARROW WITH TAIL WITH VERTICAL=STROKE;
RIGHTWARDS TWO-HEADED ARROW WITH TRIANGLE=ARROWHEADS;
RIGHTWARDS TWO-HEADED ARROW WITH VERTICAL=STROKE;RIGHTWARDS TWO-HEADED TRIPLE DASH=ARROW;
RIGHTWARDS WAVE=ARROW;RIGHTWARDS WHITE=ARROW;RIGHTWARDS WHITE ARROW FROM=WALL;
RIGHTWARDS WHITE ARROW WITHIN TRIANGLE=ARROWHEAD;RING=ABOVE,BUOY,OPERATOR,POINT;RING EQUAL=TO;
RING IN EQUAL=TO;RINGED=PLANET;RINGING=BELL;RISING DIAGONAL CROSSING FALLING=DIAGONAL;
RISING DIAGONAL CROSSING SOUTH EAST=ARROW;ROASTED SWEET=POTATO;ROBOT=FACE;ROLL OF=PAPER;
ROLLED-UP=NEWSPAPER;ROLLER=COASTER,SKATE;ROLLING ON THE FLOOR=LAUGHING;ROMAN AS=SIGN;
ROMAN CENTURIAL=SIGN;ROMAN DENARIUS=SIGN;ROMAN DIMIDIA SEXTULA=SIGN;ROMAN DUPONDIUS=SIGN;
ROMAN NUMERAL=EIGHT,ELEVEN,FIFTY,FIVE,FOUR,NINE,ONE,SEVEN,SIX,TEN,THREE,TWELVE,TWO;
ROMAN NUMERAL FIFTY=THOUSAND;ROMAN NUMERAL FIFTY EARLY=FORM;ROMAN NUMERAL FIVE=HUNDRED,THOUSAND;
ROMAN NUMERAL ONE=HUNDRED,THOUSAND;ROMAN NUMERAL ONE HUNDRED=THOUSAND;
ROMAN NUMERAL ONE THOUSAND C=D;ROMAN NUMERAL REVERSED ONE=HUNDRED;ROMAN NUMERAL SIX LATE=FORM;
ROMAN NUMERAL TEN=THOUSAND;ROMAN QUINARIUS=SIGN;ROMAN SEMUNCIA=SIGN;ROMAN SESTERTIUS=SIGN;
ROMAN SEXTANS=SIGN;ROMAN SEXTULA=SIGN;ROMAN SILIQUA=SIGN;ROMAN UNCIA=SIGN;ROTATED CAPITAL=Q;
ROTATED FLORAL HEART=BULLET;ROTATED HEAVY BLACK HEART=BULLET;ROTATED LIGHT FOUR POINTED BLACK=CUSP;
ROTATED WHITE FOUR POINTED=CUSP;ROUND=PUSHPIN,TARGET;ROUNDED SYMBOL FOR=CAI,FU,LU,SHOU,SHUANGXI,XI;
RUBLE=SIGN;RUGBY=FOOTBALL;RUMI DIGIT=EIGHT,FIVE,FOUR,NINE,ONE,SEVEN,SIX,THREE,TWO;
RUMI FRACTION ONE=HALF,QUARTER,THIRD;RUMI FRACTION TWO=THIRDS;RUMI NUMBER=EIGHTY,FIFTY,FORTY,
NINETY,SEVENTY,SIXTY,TEN,THIRTY,TWENTY;RUMI NUMBER EIGHT=HUNDRED;RUMI NUMBER FIVE=HUNDRED;
RUMI NUMBER FOUR=HUNDRED;RUMI NUMBER NINE=HUNDRED;RUMI NUMBER ONE=HUNDRED;
RUMI NUMBER SEVEN=HUNDRED;RUMI NUMBER SIX=HUNDRED;RUMI NUMBER THREE=HUNDRED;
RUMI NUMBER TWO=HUNDRED;RUNIC ARLAUG=SYMBOL;RUNIC BELGTHOR=SYMBOL;RUNIC CROSS=PUNCTUATION;
RUNIC LETTER=AESC,C,CALC,CEALC,CEN,CWEORTH,D,DOTTED-L,DOTTED-N,DOTTED-P,E,EAR,ENG,ETH,G,GAR,GER,
ICELANDIC-YR,ING,INGWAZ,IOR,K,KAUNA,LONG-BRANCH-YR,O,OE,ON,OO,OPEN-P,Q,SH,SHORT-TWIG-YR,STAN,V,W,X,
Y,YR,Z;RUNIC LETTER AC=A;RUNIC LETTER ALGIZ=EOLHX;RUNIC LETTER ANSUZ=A;
RUNIC LETTER BERKANAN BEORC BJARKAN=B;RUNIC LETTER DAGAZ DAEG=D;RUNIC LETTER EHWAZ EH=E;
RUNIC LETTER FEHU FEOH FE=F;RUNIC LETTER FRANKS CASKET=AC,AESC,EH,IS,OS;RUNIC LETTER GEBO GYFU=G;
RUNIC LETTER HAEGL=H;RUNIC LETTER HAGLAZ=H;RUNIC LETTER ISAZ IS ISS=I;RUNIC LETTER IWAZ=EOH;
RUNIC LETTER JERAN=J;RUNIC LETTER KAUN=K;RUNIC LETTER LAUKAZ LAGU LOGR=L;
RUNIC LETTER LONG-BRANCH-AR=AE;RUNIC LETTER LONG-BRANCH-HAGALL=H;RUNIC LETTER LONG-BRANCH-MADR=M;
RUNIC LETTER LONG-BRANCH-OSS=O;RUNIC LETTER MANNAZ MAN=M;RUNIC LETTER NAUDIZ NYD NAUD=N;
RUNIC LETTER OS=O;RUNIC LETTER OTHALAN ETHEL=O;RUNIC LETTER PERTHO PEORTH=P;
RUNIC LETTER RAIDO RAD REID=R;RUNIC LETTER SHORT-TWIG-AR=A;RUNIC LETTER SHORT-TWIG-BJARKAN=B;
RUNIC LETTER SHORT-TWIG-HAGALL=H;RUNIC LETTER SHORT-TWIG-MADR=M;RUNIC LETTER SHORT-TWIG-NAUD=N;
RUNIC LETTER SHORT-TWIG-OSS=O;RUNIC LETTER SHORT-TWIG-SOL=S;RUNIC LETTER SHORT-TWIG-TYR=T;
RUNIC LETTER SIGEL LONG-BRANCH-SOL=S;RUNIC LETTER SOWILO=S;RUNIC LETTER THURISAZ THURS=THORN;
RUNIC LETTER TIWAZ TIR TYR=T;RUNIC LETTER URUZ UR=U;RUNIC LETTER WUNJO WYNN=W;
RUNIC MULTIPLE=PUNCTUATION;RUNIC SINGLE=PUNCTUATION;RUNIC TVIMADUR=SYMBOL;RUNNING SHIRT WITH=SASH;
RUPEE=SIGN;RUSSIAN ASTROLOGICAL SYMBOL=BINOVILE,NOVILE,QUINTILE,SENTAGON,TREDECILE,VIGINTILE;
S IN=TRIANGLE;SAFETY=PIN,VEST;SAKE BOTTLE AND=CUP;SALT=SHAKER;SALUTING=FACE;
SAMARITAN ABBREVIATION=MARK;SAMARITAN LETTER=ALAF,BAA,BIT,DALAT,FI,GAMAN,IN,IT,IY,KAAF,LABAT,MIM,
NUN,QUF,RISH,SHAN,SINGAAT,TAAF,TIT,TSAADIY,YUT,ZEN;SAMARITAN MARK=DAGESH,IN,IN-ALAF,NEQUDAA,
OCCLUSION;SAMARITAN MARK EPENTHETIC=YUT;SAMARITAN MODIFIER LETTER=I;
SAMARITAN MODIFIER LETTER EPENTHETIC=YUT;SAMARITAN MODIFIER LETTER SHORT=A;
SAMARITAN PUNCTUATION=AFSAAQ,ANGED,ANNAAU,ARKAANU,ATMAAU,BAU,NEQUDAA,QITSA,SHIYYAALAA,TURU,ZAEF,
ZIQAA;SAMARITAN PUNCTUATION MELODIC=QITSA;SAMARITAN PUNCTUATION SOF=MASHFAAT;
SAMARITAN VOWEL SIGN=A,AA,E,I,O,SUKUN,U;SAMARITAN VOWEL SIGN LONG=A,AA,E,I,U;
SAMARITAN VOWEL SIGN OVERLONG=A,AA;SAMARITAN VOWEL SIGN SHORT=A;
SANS-SERIF HEAVY DOUBLE COMMA QUOTATION MARK=ORNAMENT;
SANS-SERIF HEAVY DOUBLE TURNED COMMA QUOTATION MARK=ORNAMENT;
SANS-SERIF HEAVY LOW DOUBLE COMMA QUOTATION MARK=ORNAMENT;SANS-SERIF INTERROBANG=ORNAMENT;
SATELLITE=ANTENNA;SAURASHTRA=DANDA;SAURASHTRA CONSONANT SIGN=HAARU;SAURASHTRA DIGIT=EIGHT,FIVE,
FOUR,NINE,ONE,SEVEN,SIX,THREE,TWO,ZERO;SAURASHTRA DOUBLE=DANDA;SAURASHTRA LETTER=A,AA,AI,AU,BA,BHA,
CA,CHA,DA,DDA,DDHA,DHA,E,EE,GA,GHA,HA,I,II,JA,JHA,KA,KHA,LA,LLA,MA,NA,NGA,NNA,NYA,O,OO,PA,PHA,RA,
SA,SHA,SSA,TA,THA,TTA,TTHA,U,UU,VA,YA;SAURASHTRA LETTER VOCALIC=L,LL,R,RR;SAURASHTRA SIGN=ANUSVARA,
CANDRABINDU,VIRAMA,VISARGA;SAURASHTRA VOWEL SIGN=AA,AI,AU,E,EE,I,II,O,OO,U,UU;
SAURASHTRA VOWEL SIGN VOCALIC=L,LL,R,RR;SCHOOL=SATCHEL;SCRIPT CAPITAL=B,E,F,H,I,L,M,P,R;
SCRIPT LIGATURE ET=ORNAMENT;SCRIPT SMALL=E,G,L,O;SECOND PLACE=MEDAL;SECTION=SIGN;
SEE-NO-EVIL=MONKEY;SEGMENTED DIGIT=EIGHT,FIVE,FOUR,NINE,ONE,SEVEN,SIX,THREE,TWO,ZERO;
SEMIDIRECT PRODUCT WITH BOTTOM=CLOSED;SEPARATED=SYMBOL;SERIOUS FACE WITH SYMBOLS COVERING=MOUTH;
SERVICE=MARK;SESAME=DOT;SET=MINUS;SET TRANSMIT=STATE;SEWING=NEEDLE;SHADOWED WHITE=CIRCLE,STAR;
SHADOWED WHITE LATIN=CROSS;SHALLOW PAN OF=FOOD;SHARADA=DANDA,EKAM,HEADSTROKE,OM,SEPARATOR;
SHARADA ABBREVIATION=SIGN;SHARADA CONTINUATION=SIGN;SHARADA DIGIT=EIGHT,FIVE,FOUR,NINE,ONE,SEVEN,
SIX,THREE,TWO,ZERO;SHARADA DOUBLE=DANDA;SHARADA EXTRA SHORT VOWEL=MARK;SHARADA LETTER=A,AA,AI,AU,
BA,BHA,CA,CHA,DA,DDA,DDHA,DHA,E,GA,GHA,HA,I,II,JA,JHA,KA,KHA,LA,LLA,MA,NA,NGA,NNA,NYA,O,PA,PHA,RA,
SA,SHA,SSA,TA,THA,TTA,TTHA,U,UU,VA,YA;SHARADA LETTER VOCALIC=L,LL,R,RR;SHARADA SANDHI=MARK;
SHARADA SECTION=MARK-1,MARK-2;SHARADA SIGN=ANUSVARA,AVAGRAHA,CANDRABINDU,JIHVAMULIYA,NUKTA,SIDDHAM,
UPADHMANIYA,VIRAMA,VISARGA;SHARADA SIGN INVERTED=CANDRABINDU;SHARADA SUTRA=MARK;
SHARADA VOWEL MODIFIER=MARK;SHARADA VOWEL SIGN=AA,AI,AU,E,I,II,O,U,UU;
SHARADA VOWEL SIGN PRISHTHAMATRA=E;SHARADA VOWEL SIGN VOCALIC=L,LL,R,RR;SHAVED=ICE;
SHAVIAN LETTER=ADO,AGE,AH,AIR,ARE,ARRAY,ASH,AWE,BIB,CHURCH,DEAD,EAR,EAT,EGG,ERR,FEE,GAG,HA-HA,HUNG,
IAN,ICE,IF,JUDGE,KICK,LOLL,MEASURE,MIME,NUN,OAK,OIL,ON,OOZE,OR,OUT,PEEP,ROAR,SO,SURE,THEY,THIGH,
TOT,UP,VOW,WOE,WOOL,YEA,YEW,ZOO;SHIFT=IN,OUT;SHINTO=SHRINE;SHOCKED FACE WITH EXPLODING=HEAD;
SHOOTING=STAR;SHOPPING=BAGS,TROLLEY;SHORT BACKSLANTED SOUTH=ARROW;
SHORT BENT ARROW POINTING DOWNWARDS THEN NORTH=EAST;SHORT DOWN=TACK;SHORT DOWN TACK WITH=OVERBAR;
SHORT LEFT=TACK;SHORT RIGHTWARDS ARROW ABOVE LEFTWARDS=ARROW;SHORT SLANTED NORTH=ARROW;
SHORT UP=TACK;SHORT UP TACK ABOVE SHORT DOWN=TACK;SHORT UP TACK WITH=UNDERBAR;
SHORTHAND FORMAT CONTINUING=OVERLAP;SHORTHAND FORMAT DOWN=STEP;SHORTHAND FORMAT LETTER=OVERLAP;
SHORTHAND FORMAT UP=STEP;SHOULDERED OPEN=BOX;SHUFFLE=PRODUCT;SIDDHAM=DANDA;SIDDHAM DOUBLE=DANDA;
SIDDHAM END OF TEXT=MARK;SIDDHAM LETTER=A,AA,AI,AU,BA,BHA,CA,CHA,DA,DDA,DDHA,DHA,E,GA,GHA,HA,I,II,
JA,JHA,KA,KHA,LA,MA,NA,NGA,NNA,NYA,O,PA,PHA,RA,SA,SHA,SSA,TA,THA,TTA,TTHA,U,UU,VA,YA;
SIDDHAM LETTER ALTERNATE=U;SIDDHAM LETTER THREE-CIRCLE ALTERNATE=I;
SIDDHAM LETTER TWO-CIRCLE ALTERNATE=I,II;SIDDHAM LETTER VOCALIC=L,LL,R,RR;
SIDDHAM REPETITION=MARK-1,MARK-2,MARK-3;SIDDHAM SECTION MARK DOUBLE=RING;
SIDDHAM SECTION MARK DOUBLE RING WITH=RAYS;SIDDHAM SECTION MARK WITH CIRCLES AND=RAYS;
SIDDHAM SECTION MARK WITH CIRCLES AND FOUR=ENCLOSURES;
SIDDHAM SECTION MARK WITH CIRCLES AND TWO=ENCLOSURES;SIDDHAM SECTION MARK WITH DOUBLE=CRESCENTS;
SIDDHAM SECTION MARK WITH QUADRUPLE=CRESCENTS;SIDDHAM SECTION MARK WITH RAYS AND DOTTED=CRESCENTS;
SIDDHAM SECTION MARK WITH RAYS AND DOTTED DOUBLE=CRESCENTS;
SIDDHAM SECTION MARK WITH RAYS AND DOTTED TRIPLE=CRESCENTS;
SIDDHAM SECTION MARK WITH SEPTUPLE=CRESCENTS;
SIDDHAM SECTION MARK WITH TRIDENT AND DOTTED=CRESCENTS;
SIDDHAM SECTION MARK WITH TRIDENT AND U-SHAPED=ORNAMENTS;
SIDDHAM SECTION MARK WITH TRIPLE=CRESCENTS;SIDDHAM SEPARATOR=BAR,DOT;SIDDHAM SIGN=ANUSVARA,
CANDRABINDU,NUKTA,SIDDHAM,VIRAMA,VISARGA;SIDDHAM VOWEL SIGN=AA,AI,AU,E,I,II,O,U,UU;
SIDDHAM VOWEL SIGN ALTERNATE=U,UU;SIDDHAM VOWEL SIGN VOCALIC=R,RR;
SIDEWAYS BLACK DOWN POINTING=INDEX;SIDEWAYS BLACK LEFT POINTING=INDEX;
SIDEWAYS BLACK RIGHT POINTING=INDEX;SIDEWAYS BLACK UP POINTING=INDEX;
SIDEWAYS WHITE DOWN POINTING=INDEX;SIDEWAYS WHITE LEFT POINTING=INDEX;
SIDEWAYS WHITE RIGHT POINTING=INDEX;SIDEWAYS WHITE UP POINTING=INDEX;SIGN OF THE=HORNS;
SIGNWRITING=COLON,COMMA,EARS,EXCITEMENT,FINGER,HAIR,HAND-ANGLE,HAND-CIRCLE,HAND-CLAW,HAND-CUP,
HAND-CURLICUE,HAND-FIST,HAND-FLAT,HAND-HINGE,HAND-HOOK,HAND-OVAL,HEAD,NECK,PARENTHESIS,SEMICOLON,
TEETH;SIGNWRITING AIR BLOW SMALL=ROTATIONS;SIGNWRITING AIR BLOWING=OUT;
SIGNWRITING AIR SUCK SMALL=ROTATIONS;SIGNWRITING AIR SUCKING=IN;SIGNWRITING BREATH=EXHALE,INHALE;
SIGNWRITING BRUSH=BETWEEN,MULTIPLE,SINGLE;SIGNWRITING CHEEKS=NEUTRAL,PUFFED,SUCKED;
SIGNWRITING DREAMY EYEBROWS DOWN=NEUTRAL;SIGNWRITING DREAMY EYEBROWS NEUTRAL=DOWN,UP;
SIGNWRITING DREAMY EYEBROWS UP=NEUTRAL;SIGNWRITING DYNAMIC=FAST,GRADUAL,RELAXED,SIMULTANEOUS,SLOW,
TENSE;SIGNWRITING DYNAMIC ARROWHEAD=LARGE,SMALL;SIGNWRITING DYNAMIC EVERY OTHER=TIME;
SIGNWRITING DYNAMIC SIMULTANEOUS=ALTERNATING;SIGNWRITING EYE=WINK;SIGNWRITING EYE BLINK=MULTIPLE,
SINGLE;SIGNWRITING EYEBROWS STRAIGHT=DOWN,NEUTRAL,UP;SIGNWRITING EYEGAZE-FLOORPLANE=CURVED,
STRAIGHT;SIGNWRITING EYEGAZE-FLOORPLANE STRAIGHT=ALTERNATING,DOUBLE;
SIGNWRITING EYEGAZE-WALLPLANE=CIRCLING,CURVED,STRAIGHT;
SIGNWRITING EYEGAZE-WALLPLANE STRAIGHT=ALTERNATING,DOUBLE;SIGNWRITING EYELASHES=DOWN,FLUTTERING,UP;
SIGNWRITING EYES=CLOSED,OPEN,SQUEEZED;SIGNWRITING EYES HALF=CLOSED,OPEN;SIGNWRITING EYES WIDE=OPEN;
SIGNWRITING EYES WIDENING=MOVEMENT;SIGNWRITING FACE DIRECTION POSITION NOSE FORWARD=TILTING;
SIGNWRITING FACE DIRECTION POSITION NOSE UP OR=DOWN;
SIGNWRITING FACE DIRECTION POSITION NOSE UP OR DOWN=TILTING;SIGNWRITING FILL=MODIFIER-2,MODIFIER-3,
MODIFIER-4,MODIFIER-5,MODIFIER-6;SIGNWRITING FLICK=SEQUENTIAL;SIGNWRITING FLICK LARGE=MULTIPLE,
SINGLE;SIGNWRITING FLICK SMALL=MULTIPLE,SINGLE;SIGNWRITING FLOORPLANE SHOULDER HIP=MOVE;
SIGNWRITING FOREHEAD=CONTACT,NEUTRAL,WRINKLED;SIGNWRITING FULL=STOP;SIGNWRITING GRASP=BETWEEN,
MULTIPLE,SINGLE;SIGNWRITING HAND-ANGLE=INDEX;SIGNWRITING HAND-ANGLE INDEX=THUMB;
SIGNWRITING HAND-ANGLE INDEX MIDDLE=LITTLE,RING;SIGNWRITING HAND-ANGLE INDEX RING=LITTLE;
SIGNWRITING HAND-ANGLE INDEX RING LITTLE=OUT;SIGNWRITING HAND-ANGLE INDEX THUMB=IN,OUT;
SIGNWRITING HAND-ANGLE LITTLE=INDEX,UP;SIGNWRITING HAND-ANGLE LITTLE INDEX THUMB INDEX=THUMB;
SIGNWRITING HAND-ANGLE LITTLE INDEX THUMB INDEX THUMB=OUT;
SIGNWRITING HAND-ANGLE MIDDLE RING=LITTLE;SIGNWRITING HAND-ANGLE MIDDLE RING LITTLE=IN,OUT;
SIGNWRITING HAND-ANGLE RING=LITTLE;SIGNWRITING HAND-ANGLE RING DOWN MIDDLE THUMB INDEX=CROSS;
SIGNWRITING HAND-CIRCLE=INDEX;SIGNWRITING HAND-CIRCLE INDEX=BENT,HINGE,MIDDLE;
SIGNWRITING HAND-CIRCLE INDEX MIDDLE=CROSSED,LITTLE,RING,THUMB;
SIGNWRITING HAND-CIRCLE INDEX MIDDLE CROSS=LITTLE;SIGNWRITING HAND-CIRCLE INDEX RING=LITTLE;
SIGNWRITING HAND-CIRCLE LITTLE=INDEX,UP;SIGNWRITING HAND-CIRCLE MIDDLE=UP;
SIGNWRITING HAND-CIRCLE MIDDLE RING=LITTLE;SIGNWRITING HAND-CIRCLE MIDDLE RING LITTLE=BENT;
SIGNWRITING HAND-CIRCLE RING=LITTLE;SIGNWRITING HAND-CLAW FOUR FINGERS=CONJOINED;
SIGNWRITING HAND-CLAW INDEX THUMB CURVE THUMB=INSIDE;
SIGNWRITING HAND-CLAW MIDDLE RING LITTLE=CONJOINED;
SIGNWRITING HAND-CLAW MIDDLE RING LITTLE CONJOINED=SIDE;SIGNWRITING HAND-CLAW NO=THUMB;
SIGNWRITING HAND-CLAW THUMB=FORWARD,SIDE;SIGNWRITING HAND-CUP=INDEX,OPEN;
SIGNWRITING HAND-CUP FIVE FINGERS=SPREAD;SIGNWRITING HAND-CUP FIVE FINGERS SPREAD=OPEN;
SIGNWRITING HAND-CUP INDEX=THUMB;SIGNWRITING HAND-CUP INDEX RING=LITTLE;
SIGNWRITING HAND-CUP INDEX THUMB=OPEN;SIGNWRITING HAND-CUP MIDDLE RING=LITTLE;
SIGNWRITING HAND-CUP NO=THUMB;SIGNWRITING HAND-CUP OPEN NO=THUMB;
SIGNWRITING HAND-CUP OPEN THUMB=FORWARD,SIDE;SIGNWRITING HAND-CUP THUMB=FORWARD,SIDE;
SIGNWRITING HAND-CURLICUE=OPEN;SIGNWRITING HAND-CURLICUE INDEX RING LITTLE=ON;
SIGNWRITING HAND-CURLICUE MIDDLE RING LITTLE=ON;SIGNWRITING HAND-FIST=HEEL,INDEX,THUMB;
SIGNWRITING HAND-FIST FOUR FINGERS CONJOINED=BENT;SIGNWRITING HAND-FIST INDEX=BENT,CUPPED,HINGED,
MIDDLE;SIGNWRITING HAND-FIST INDEX BENT OVER=MIDDLE;SIGNWRITING HAND-FIST INDEX HINGED=LOW;
SIGNWRITING HAND-FIST INDEX HINGED MIDDLE=UP;
SIGNWRITING HAND-FIST INDEX HINGED MIDDLE UP THUMB=SIDE;SIGNWRITING HAND-FIST INDEX MIDDLE=BENT,
CONJOINED,CROSSED,HINGED,LITTLE,RING,THUMB;SIGNWRITING HAND-FIST INDEX MIDDLE BENT THUMB=STRAIGHT;
SIGNWRITING HAND-FIST INDEX MIDDLE CONJOINED=CUPPED,HINGED;
SIGNWRITING HAND-FIST INDEX MIDDLE CONJOINED CUPPED THUMB=FORWARD;
SIGNWRITING HAND-FIST INDEX MIDDLE CONJOINED HINGED THUMB=SIDE;
SIGNWRITING HAND-FIST INDEX MIDDLE CONJOINED INDEX=BENT;
SIGNWRITING HAND-FIST INDEX MIDDLE CONJOINED MIDDLE=BENT;
SIGNWRITING HAND-FIST INDEX MIDDLE CONJOINED THUMB=FORWARD,SIDE;
SIGNWRITING HAND-FIST INDEX MIDDLE CONJOINED THUMB SIDE=BENT,CONJOINED;
SIGNWRITING HAND-FIST INDEX MIDDLE CROSS=LITTLE;
SIGNWRITING HAND-FIST INDEX MIDDLE CROSSED THUMB=SIDE;
SIGNWRITING HAND-FIST INDEX MIDDLE HINGED SPREAD THUMB=SIDE;
SIGNWRITING HAND-FIST INDEX MIDDLE RAISED=KNUCKLES;SIGNWRITING HAND-FIST INDEX MIDDLE RING=BENT,
CONJOINED;SIGNWRITING HAND-FIST INDEX MIDDLE STRAIGHT THUMB=BENT;
SIGNWRITING HAND-FIST INDEX MIDDLE THUMB=ANGLED,BENT,CIRCLED,CUPPED,HINGED,HOOKED;
SIGNWRITING HAND-FIST INDEX MIDDLE THUMB ANGLED=OUT;
SIGNWRITING HAND-FIST INDEX MIDDLE THUMB CONJOINED=HINGED;
SIGNWRITING HAND-FIST INDEX MIDDLE UP SPREAD THUMB=FORWARD;
SIGNWRITING HAND-FIST INDEX RAISED=KNUCKLE;SIGNWRITING HAND-FIST INDEX RING=LITTLE;
SIGNWRITING HAND-FIST INDEX THUMB=CIRCLE,CURLICUE,HOOK,SIDE;
SIGNWRITING HAND-FIST INDEX THUMB ANGLED IN MIDDLE=UP;
SIGNWRITING HAND-FIST INDEX THUMB ANGLED OUT MIDDLE=UP;
SIGNWRITING HAND-FIST INDEX THUMB CIRCLED MIDDLE=UP;
SIGNWRITING HAND-FIST INDEX THUMB CUPPED MIDDLE=UP;
SIGNWRITING HAND-FIST INDEX THUMB CURVE THUMB=INSIDE,UNDER;
SIGNWRITING HAND-FIST INDEX THUMB FORWARD INDEX=BENT,STRAIGHT;
SIGNWRITING HAND-FIST INDEX THUMB HOOKED MIDDLE=HINGED,UP;
SIGNWRITING HAND-FIST INDEX THUMB SIDE BOTH=BENT;SIGNWRITING HAND-FIST INDEX THUMB SIDE INDEX=BENT,
HINGE;SIGNWRITING HAND-FIST INDEX THUMB SIDE THUMB=BENT,CONJOINED,DIAGONAL;
SIGNWRITING HAND-FIST INDEX UP MIDDLE=HINGED;
SIGNWRITING HAND-FIST INDEX UP MIDDLE HINGED THUMB=CONJOINED,SIDE;
SIGNWRITING HAND-FIST LITTLE=BENT,DOWN,INDEX,THUMB,UP;
SIGNWRITING HAND-FIST LITTLE DOWN OTHERS=CIRCLED;SIGNWRITING HAND-FIST LITTLE DOWN RIPPLE=CURVED,
STRAIGHT;SIGNWRITING HAND-FIST LITTLE INDEX=THUMB;SIGNWRITING HAND-FIST LITTLE RAISED=KNUCKLE;
SIGNWRITING HAND-FIST LITTLE TOUCHES=THUMB;SIGNWRITING HAND-FIST MIDDLE=DOWN,LITTLE,UP;
SIGNWRITING HAND-FIST MIDDLE BENT OVER=INDEX;SIGNWRITING HAND-FIST MIDDLE RAISED=KNUCKLE;
SIGNWRITING HAND-FIST MIDDLE RING=LITTLE;SIGNWRITING HAND-FIST MIDDLE THUMB=LITTLE;
SIGNWRITING HAND-FIST MIDDLE THUMB ANGLED INDEX=UP;
SIGNWRITING HAND-FIST MIDDLE THUMB ANGLED OUT INDEX=CROSSED,UP;
SIGNWRITING HAND-FIST MIDDLE THUMB CIRCLED INDEX=HINGED,UP;
SIGNWRITING HAND-FIST MIDDLE THUMB CUPPED INDEX=UP;
SIGNWRITING HAND-FIST MIDDLE THUMB HOOKED INDEX=UP;SIGNWRITING HAND-FIST MIDDLE UP THUMB=SIDE;
SIGNWRITING HAND-FIST RING=DOWN,INDEX,LITTLE,MIDDLE,THUMB,UP;
SIGNWRITING HAND-FIST RING MIDDLE=CONJOINED;SIGNWRITING HAND-FIST RING MIDDLE RAISED=KNUCKLES;
SIGNWRITING HAND-FIST RING RAISED=KNUCKLE;SIGNWRITING HAND-FIST THUMB=FORWARD,HEEL;
SIGNWRITING HAND-FIST THUMB BETWEEN INDEX=MIDDLE;
SIGNWRITING HAND-FIST THUMB BETWEEN INDEX MIDDLE=STRAIGHT;
SIGNWRITING HAND-FIST THUMB BETWEEN MIDDLE=RING;SIGNWRITING HAND-FIST THUMB BETWEEN RING=LITTLE;
SIGNWRITING HAND-FIST THUMB OVER FOUR RAISED=KNUCKLES;SIGNWRITING HAND-FIST THUMB OVER TWO=FINGERS;
SIGNWRITING HAND-FIST THUMB SIDE=BENT,CONJOINED,DIAGONAL;
SIGNWRITING HAND-FIST THUMB UNDER FOUR=FINGERS;SIGNWRITING HAND-FIST THUMB UNDER INDEX=BENT;
SIGNWRITING HAND-FIST THUMB UNDER LITTLE=UP;SIGNWRITING HAND-FIST THUMB UNDER THREE=FINGERS;
SIGNWRITING HAND-FIST THUMB UNDER TWO=FINGERS;SIGNWRITING HAND-FLAT=HEEL;
SIGNWRITING HAND-FLAT BETWEEN PALM=FACINGS;SIGNWRITING HAND-FLAT FIVE FINGERS=SPREAD;
SIGNWRITING HAND-FLAT FIVE FINGERS SPREAD=BENT,HINGED;
SIGNWRITING HAND-FLAT FIVE FINGERS SPREAD FOUR=BENT;
SIGNWRITING HAND-FLAT FIVE FINGERS SPREAD HINGED NO=THUMB;
SIGNWRITING HAND-FLAT FIVE FINGERS SPREAD HINGED THUMB=SIDE;
SIGNWRITING HAND-FLAT FIVE FINGERS SPREAD THUMB=FORWARD;SIGNWRITING HAND-FLAT FOUR=FINGERS;
SIGNWRITING HAND-FLAT FOUR FINGERS=BENT,CONJOINED,HINGED;
SIGNWRITING HAND-FLAT FOUR FINGERS CONJOINED=SPLIT;SIGNWRITING HAND-FLAT HEEL FIVE FINGERS=SPREAD;
SIGNWRITING HAND-FLAT HEEL FIVE FINGERS SPREAD=BENT;
SIGNWRITING HAND-FLAT HEEL FIVE FINGERS SPREAD FOUR=BENT;SIGNWRITING HAND-FLAT HEEL THUMB=SIDE;
SIGNWRITING HAND-FLAT SPLIT=CENTRE,LITTLE;SIGNWRITING HAND-FLAT SPLIT CENTRE THUMB=SIDE;
SIGNWRITING HAND-FLAT SPLIT CENTRE THUMB SIDE=BENT;SIGNWRITING HAND-FLAT SPLIT INDEX THUMB=SIDE;
SIGNWRITING HAND-FLAT THUMB=BENT,FORWARD,SIDE;SIGNWRITING HAND-HINGE=INDEX,LITTLE,MIDDLE,OPEN,RING,
SMALL;SIGNWRITING HAND-HINGE FIVE FINGERS SPREAD=OPEN;
SIGNWRITING HAND-HINGE FOUR FINGERS=CONJOINED;SIGNWRITING HAND-HINGE INDEX=HINGED,THUMB;
SIGNWRITING HAND-HINGE INDEX MIDDLE=LITTLE,RING;SIGNWRITING HAND-HINGE INDEX MIDDLE RING=CONJOINED;
SIGNWRITING HAND-HINGE INDEX RING=LITTLE;SIGNWRITING HAND-HINGE INDEX THUMB=LARGE,OPEN,SIDE,SMALL;
SIGNWRITING HAND-HINGE LITTLE=INDEX,THUMB;SIGNWRITING HAND-HINGE LITTLE INDEX=THUMB;
SIGNWRITING HAND-HINGE MIDDLE RING=LITTLE;SIGNWRITING HAND-HINGE NO=THUMB;
SIGNWRITING HAND-HINGE OPEN NO=THUMB;SIGNWRITING HAND-HINGE OPEN THUMB=FORWARD,SIDE;
SIGNWRITING HAND-HINGE RING DOWN INDEX THUMB HOOK=MIDDLE;SIGNWRITING HAND-HINGE THUMB=SIDE;
SIGNWRITING HAND-HINGE THUMB BETWEEN MIDDLE=RING;SIGNWRITING HAND-HINGE THUMB SIDE TOUCHING=INDEX;
SIGNWRITING HAND-HOOK=CURLICUE;SIGNWRITING HAND-HOOK INDEX RING LITTLE=IN,OUT,UNDER;
SIGNWRITING HAND-HOOK MIDDLE=THUMB;SIGNWRITING HAND-HOOK MIDDLE RING LITTLE=CONJOINED;
SIGNWRITING HAND-HOOK MIDDLE RING LITTLE CONJOINED=IN,OUT;SIGNWRITING HAND-HOOK RING=THUMB;
SIGNWRITING HAND-OVAL=INDEX;SIGNWRITING HAND-OVAL FIVE FINGERS=SPREAD;
SIGNWRITING HAND-OVAL LITTLE=UP;SIGNWRITING HAND-OVAL NO=THUMB;SIGNWRITING HAND-OVAL RING=LITTLE;
SIGNWRITING HAND-OVAL THUMB=FORWARD,SIDE;SIGNWRITING HEAD=RIM;SIGNWRITING HEAD MOVEMENT=CIRCLE;
SIGNWRITING HEAD MOVEMENT-FLOORPLANE=CURVE,STRAIGHT;SIGNWRITING HEAD MOVEMENT-WALLPLANE=CURVE,
STRAIGHT,TILT;SIGNWRITING LIMB=COMBINATION,LENGTH-1,LENGTH-2,LENGTH-3,LENGTH-4,LENGTH-5,LENGTH-6,
LENGTH-7;SIGNWRITING LIP LOWER OVER=UPPER;SIGNWRITING LIP UPPER OVER=LOWER;
SIGNWRITING LIPS PRESSED=TOGETHER;SIGNWRITING LOCATION=DEPTH,HEIGHT,TORSO,WIDTH;
SIGNWRITING LOCATION HEAD=NECK;SIGNWRITING LOCATION LIMBS=DIGITS;
SIGNWRITING LOCATION-FLOORPLANE=SPACE;SIGNWRITING LOCATION-WALLPLANE=SPACE;
SIGNWRITING MOUTH=CORNERS,FROWN,KISS,SMILE,TENSE;SIGNWRITING MOUTH CLOSED=CONTACT,FORWARD,NEUTRAL;
SIGNWRITING MOUTH FROWN=OPEN,WRINKLED;SIGNWRITING MOUTH KISS=FORWARD,WRINKLED;
SIGNWRITING MOUTH OPEN=CIRCLE,FORWARD,OVAL,RECTANGLE,WRINKLED;SIGNWRITING MOUTH OPEN OVAL=WRINKLED,
YAWN;SIGNWRITING MOUTH OPEN RECTANGLE=WRINKLED,YAWN;SIGNWRITING MOUTH SMILE=OPEN,WRINKLED;
SIGNWRITING MOUTH TENSE=FORWARD,SUCKED;SIGNWRITING MOUTH WRINKLES=DOUBLE,SINGLE;
SIGNWRITING MOVEMENT-DIAGONAL AWAY=LARGE,LARGEST,MEDIUM,SMALL;
SIGNWRITING MOVEMENT-DIAGONAL BETWEEN AWAY=LARGE,LARGEST,MEDIUM,SMALL;
SIGNWRITING MOVEMENT-DIAGONAL BETWEEN TOWARDS=LARGE,LARGEST,MEDIUM,SMALL;
SIGNWRITING MOVEMENT-DIAGONAL TOWARDS=LARGE,LARGEST,MEDIUM,SMALL;
SIGNWRITING MOVEMENT-FLOORPLANE=BEND,CHECK,CROSS,JAW;
SIGNWRITING MOVEMENT-FLOORPLANE ARM CIRCLE HITTING WALL LARGE=DOUBLE,SINGLE;
SIGNWRITING MOVEMENT-FLOORPLANE ARM CIRCLE HITTING WALL MEDIUM=DOUBLE,SINGLE;
SIGNWRITING MOVEMENT-FLOORPLANE ARM CIRCLE HITTING WALL SMALL=DOUBLE,SINGLE;
SIGNWRITING MOVEMENT-FLOORPLANE BOX=LARGE,MEDIUM,SMALL;
SIGNWRITING MOVEMENT-FLOORPLANE CORNER=LARGE,MEDIUM,SMALL;
SIGNWRITING MOVEMENT-FLOORPLANE CURVE=COMBINED,LARGE,LARGEST,MEDIUM,SMALL;
SIGNWRITING MOVEMENT-FLOORPLANE CURVE HITTING CEILING=LARGE,SMALL;
SIGNWRITING MOVEMENT-FLOORPLANE CURVE HITTING FLOOR=LARGE,SMALL;
SIGNWRITING MOVEMENT-FLOORPLANE DOUBLE=ALTERNATING,STRAIGHT;
SIGNWRITING MOVEMENT-FLOORPLANE DOUBLE ALTERNATING WRIST=FLEX;
SIGNWRITING MOVEMENT-FLOORPLANE DOUBLE WRIST=FLEX;SIGNWRITING MOVEMENT-FLOORPLANE FINGER=CONTACT;
SIGNWRITING MOVEMENT-FLOORPLANE FINGER CIRCLES HITTING WALL=DOUBLE,SINGLE;
SIGNWRITING MOVEMENT-FLOORPLANE HUMP=SMALL;
SIGNWRITING MOVEMENT-FLOORPLANE HUMP HITTING CEILING LARGE=DOUBLE,TRIPLE;
SIGNWRITING MOVEMENT-FLOORPLANE HUMP HITTING CEILING SMALL=DOUBLE,TRIPLE;
SIGNWRITING MOVEMENT-FLOORPLANE HUMP HITTING FLOOR LARGE=DOUBLE;
SIGNWRITING MOVEMENT-FLOORPLANE HUMP HITTING FLOOR SMALL=DOUBLE;
SIGNWRITING MOVEMENT-FLOORPLANE HUMP HITTING FLOOR TRIPLE LARGE=TRIPLE;
SIGNWRITING MOVEMENT-FLOORPLANE HUMP HITTING FLOOR TRIPLE SMALL=TRIPLE;
SIGNWRITING MOVEMENT-FLOORPLANE LOOP=SMALL;
SIGNWRITING MOVEMENT-FLOORPLANE LOOP HITTING CEILING LARGE=DOUBLE,SINGLE;
SIGNWRITING MOVEMENT-FLOORPLANE LOOP HITTING CEILING SMALL=DOUBLE,SINGLE;
SIGNWRITING MOVEMENT-FLOORPLANE LOOP HITTING FLOOR LARGE=DOUBLE,SINGLE;
SIGNWRITING MOVEMENT-FLOORPLANE LOOP HITTING FLOOR SMALL=DOUBLE,SINGLE;
SIGNWRITING MOVEMENT-FLOORPLANE PEAKS=LARGE,MEDIUM,SMALL;
SIGNWRITING MOVEMENT-FLOORPLANE SHAKING=PARALLEL;
SIGNWRITING MOVEMENT-FLOORPLANE SINGLE STRAIGHT=LARGE,LARGEST,MEDIUM,SMALL;
SIGNWRITING MOVEMENT-FLOORPLANE SINGLE WRIST=FLEX;
SIGNWRITING MOVEMENT-FLOORPLANE TRIPLE ALTERNATING=MOVEMENT;
SIGNWRITING MOVEMENT-FLOORPLANE TRIPLE ALTERNATING WRIST=FLEX;
SIGNWRITING MOVEMENT-FLOORPLANE TRIPLE STRAIGHT=MOVEMENT;
SIGNWRITING MOVEMENT-FLOORPLANE TRIPLE WRIST=FLEX;SIGNWRITING MOVEMENT-FLOORPLANE WAVE=LARGE,SMALL,
SNAKE;SIGNWRITING MOVEMENT-FLOORPLANE WAVE HITTING CEILING=LARGE,SMALL;
SIGNWRITING MOVEMENT-FLOORPLANE WAVE HITTING FLOOR=LARGE,SMALL;
SIGNWRITING MOVEMENT-FLOORPLANE WRIST CIRCLE HITTING WALL=DOUBLE,SINGLE;
SIGNWRITING MOVEMENT-FLOORPLANE ZIGZAG=LARGE,MEDIUM,SMALL;
SIGNWRITING MOVEMENT-HINGE DOWN=SEQUENTIAL;SIGNWRITING MOVEMENT-HINGE SIDE TO SIDE=SCISSORS;
SIGNWRITING MOVEMENT-HINGE UP=SEQUENTIAL;SIGNWRITING MOVEMENT-HINGE UP DOWN=LARGE,SMALL;
SIGNWRITING MOVEMENT-HINGE UP DOWN ALTERNATING=LARGE,SMALL;SIGNWRITING MOVEMENT-WALLPLANE=CROSS,
JAW,SHAKING;SIGNWRITING MOVEMENT-WALLPLANE ARM CIRCLE MEDIUM=DOUBLE,SINGLE;
SIGNWRITING MOVEMENT-WALLPLANE ARM CIRCLE SMALL=DOUBLE,SINGLE;
SIGNWRITING MOVEMENT-WALLPLANE BEND=LARGE,MEDIUM,SMALL;SIGNWRITING MOVEMENT-WALLPLANE BOX=LARGE,
MEDIUM,SMALL;SIGNWRITING MOVEMENT-WALLPLANE CHECK=LARGE,MEDIUM,SMALL;
SIGNWRITING MOVEMENT-WALLPLANE CORNER=LARGE,MEDIUM,ROTATION,SMALL;
SIGNWRITING MOVEMENT-WALLPLANE CURVE HALF-CIRCLE=LARGE,LARGEST,MEDIUM,SMALL;
SIGNWRITING MOVEMENT-WALLPLANE CURVE HITTING=CHEST;
SIGNWRITING MOVEMENT-WALLPLANE CURVE HITTING FRONT=WALL;
SIGNWRITING MOVEMENT-WALLPLANE CURVE QUARTER=LARGE,LARGEST,MEDIUM,SMALL;
SIGNWRITING MOVEMENT-WALLPLANE CURVE THEN=STRAIGHT;
SIGNWRITING MOVEMENT-WALLPLANE CURVE THREE-QUARTER CIRCLE=MEDIUM,SMALL;
SIGNWRITING MOVEMENT-WALLPLANE CURVED CROSS=MEDIUM,SMALL;
SIGNWRITING MOVEMENT-WALLPLANE DOUBLE=ALTERNATING,STRAIGHT;
SIGNWRITING MOVEMENT-WALLPLANE DOUBLE ALTERNATING WRIST=FLEX;
SIGNWRITING MOVEMENT-WALLPLANE DOUBLE WRIST=FLEX;SIGNWRITING MOVEMENT-WALLPLANE FINGER=CONTACT;
SIGNWRITING MOVEMENT-WALLPLANE FINGER CIRCLES=DOUBLE,SINGLE;
SIGNWRITING MOVEMENT-WALLPLANE HUMP=LARGE,MEDIUM,SMALL;
SIGNWRITING MOVEMENT-WALLPLANE HUMP HITTING=CHEST;
SIGNWRITING MOVEMENT-WALLPLANE HUMP HITTING FRONT=WALL;SIGNWRITING MOVEMENT-WALLPLANE LOOP=LARGE,
MEDIUM,SMALL;SIGNWRITING MOVEMENT-WALLPLANE LOOP HITTING=CHEST;
SIGNWRITING MOVEMENT-WALLPLANE LOOP HITTING FRONT=WALL;
SIGNWRITING MOVEMENT-WALLPLANE LOOP SMALL=DOUBLE;SIGNWRITING MOVEMENT-WALLPLANE PEAKS=LARGE,MEDIUM,
SMALL;SIGNWRITING MOVEMENT-WALLPLANE SINGLE STRAIGHT=LARGE,LARGEST,MEDIUM,SMALL;
SIGNWRITING MOVEMENT-WALLPLANE SINGLE WRIST=FLEX;SIGNWRITING MOVEMENT-WALLPLANE TRIPLE=ALTERNATING;
SIGNWRITING MOVEMENT-WALLPLANE TRIPLE ALTERNATING WRIST=FLEX;
SIGNWRITING MOVEMENT-WALLPLANE TRIPLE STRAIGHT=MOVEMENT;
SIGNWRITING MOVEMENT-WALLPLANE TRIPLE WRIST=FLEX;
SIGNWRITING MOVEMENT-WALLPLANE WAVE CURVE DOUBLE=LARGE,MEDIUM,SMALL;
SIGNWRITING MOVEMENT-WALLPLANE WAVE CURVE TRIPLE=LARGE,MEDIUM,SMALL;
SIGNWRITING MOVEMENT-WALLPLANE WAVE DIAGONAL PATH=LARGE,MEDIUM,SMALL;
SIGNWRITING MOVEMENT-WALLPLANE WAVE HITTING=CHEST;
SIGNWRITING MOVEMENT-WALLPLANE WAVE HITTING FRONT=WALL;
SIGNWRITING MOVEMENT-WALLPLANE WRIST CIRCLE FRONT=DOUBLE,SINGLE;
SIGNWRITING MOVEMENT-WALLPLANE ZIGZAG=LARGE,MEDIUM,SMALL;SIGNWRITING NOSE=CONTACT,NEUTRAL,WIGGLES,
WRINKLES;SIGNWRITING ROTATION=MODIFIER-10,MODIFIER-11,MODIFIER-12,MODIFIER-13,MODIFIER-14,
MODIFIER-15,MODIFIER-16,MODIFIER-2,MODIFIER-3,MODIFIER-4,MODIFIER-5,MODIFIER-6,MODIFIER-7,
MODIFIER-8,MODIFIER-9;SIGNWRITING ROTATION-FLOORPLANE=ALTERNATING,DOUBLE,SINGLE;
SIGNWRITING ROTATION-FLOORPLANE ALTERNATING HITTING=CEILING,FLOOR;
SIGNWRITING ROTATION-FLOORPLANE DOUBLE HITTING=CEILING,FLOOR;
SIGNWRITING ROTATION-FLOORPLANE SINGLE HITTING=CEILING,FLOOR;
SIGNWRITING ROTATION-WALLPLANE=ALTERNATE,DOUBLE,SINGLE;
SIGNWRITING ROTATION-WALLPLANE ALTERNATING HITTING=CHEST;
SIGNWRITING ROTATION-WALLPLANE ALTERNATING HITTING FRONT=WALL;
SIGNWRITING ROTATION-WALLPLANE DOUBLE HITTING=CHEST;
SIGNWRITING ROTATION-WALLPLANE DOUBLE HITTING FRONT=WALL;
SIGNWRITING ROTATION-WALLPLANE SINGLE HITTING=CHEST;
SIGNWRITING ROTATION-WALLPLANE SINGLE HITTING FRONT=WALL;SIGNWRITING RUB=BETWEEN,MULTIPLE,SINGLE;
SIGNWRITING SHOULDER HIP=POSITIONS,SPINE;SIGNWRITING SHOULDER TILTING FROM=WAIST;
SIGNWRITING SQUEEZE=SEQUENTIAL;SIGNWRITING SQUEEZE FLICK=ALTERNATING;
SIGNWRITING SQUEEZE LARGE=MULTIPLE,SINGLE;SIGNWRITING SQUEEZE SMALL=MULTIPLE,SINGLE;
SIGNWRITING STRIKE=BETWEEN,MULTIPLE,SINGLE;SIGNWRITING SURFACE=BETWEEN,SYMBOLS;
SIGNWRITING TEETH=MOVEMENT;SIGNWRITING TEETH BITE=LIPS;SIGNWRITING TEETH ON=LIPS,TONGUE;
SIGNWRITING TEETH ON LIPS=MOVEMENT;SIGNWRITING TEETH ON TONGUE=MOVEMENT;
SIGNWRITING TENSE CHEEKS=HIGH,LOW,MIDDLE;SIGNWRITING TONGUE CENTRE INSIDE=MOUTH;
SIGNWRITING TONGUE CENTRE STICKING=OUT;SIGNWRITING TONGUE INSIDE MOUTH=RELAXED;
SIGNWRITING TONGUE LICKING=LIPS;SIGNWRITING TONGUE MOVES AGAINST=CHEEK;
SIGNWRITING TONGUE STICKING OUT=FAR;SIGNWRITING TONGUE TIP BETWEEN=LIPS;
SIGNWRITING TONGUE TIP TOUCHING INSIDE=MOUTH;SIGNWRITING TORSO-FLOORPLANE=TWISTING;
SIGNWRITING TORSO-WALLPLANE CURVED=BEND;SIGNWRITING TORSO-WALLPLANE STRAIGHT=STRETCH;
SIGNWRITING TOUCH=BETWEEN,MULTIPLE,SINGLE;SIGNWRITING TRAVEL-FLOORPLANE=SHAKING;
SIGNWRITING TRAVEL-FLOORPLANE ROTATION-FLOORPLANE=ALTERNATING,DOUBLE,SINGLE;
SIGNWRITING TRAVEL-FLOORPLANE ROTATION-WALLPLANE=ALTERNATING,DOUBLE,SINGLE;
SIGNWRITING TRAVEL-WALLPLANE=SHAKING;SIGNWRITING TRAVEL-WALLPLANE ARM SPIRAL=DOUBLE,SINGLE,TRIPLE;
SIGNWRITING TRAVEL-WALLPLANE ROTATION-FLOORPLANE=ALTERNATING,DOUBLE,SINGLE;
SIGNWRITING TRAVEL-WALLPLANE ROTATION-WALLPLANE=ALTERNATING,DOUBLE,SINGLE;
SIGNWRITING UPPER BODY TILTING FROM HIP=JOINTS;SIGNWRITING WALLPLANE SHOULDER HIP=MOVE;
SILHOUETTE OF=JAPAN;SIMILAR ABOVE GREATER-THAN ABOVE EQUALS=SIGN;
SIMILAR ABOVE LESS-THAN ABOVE EQUALS=SIGN;SIMILAR MINUS=SIMILAR;SIMILAR OR=GREATER-THAN,LESS-THAN;
SINE=WAVE;SINGLE CHARACTER=INTRODUCER;SINGLE GRAPHIC CHARACTER=INTRODUCER;
SINGLE HIGH-REVERSED-9 QUOTATION=MARK;SINGLE LEFT-POINTING ANGLE QUOTATION=MARK;
SINGLE LOW-9 QUOTATION=MARK;SINGLE RIGHT-POINTING ANGLE QUOTATION=MARK;SINGLE SHIFT=THREE,TWO;
SINHALA ARCHAIC DIGIT=EIGHT,FIVE,FOUR,NINE,ONE,SEVEN,SIX,THREE,TWO;SINHALA ARCHAIC NUMBER=EIGHTY,
FIFTY,FORTY,NINETY,SEVENTY,SIXTY,TEN,THIRTY,TWENTY;SINHALA ARCHAIC NUMBER ONE=HUNDRED,THOUSAND;
SINHALA LETTER=AAYANNA,AEEYANNA,AEYANNA,AIYANNA,AUYANNA,AYANNA,EEYANNA,EYANNA,FAYANNA,HAYANNA,
IIYANNA,ILUUYANNA,ILUYANNA,IRUUYANNA,IRUYANNA,IYANNA,MAYANNA,OOYANNA,OYANNA,RAYANNA,UUYANNA,UYANNA,
VAYANNA,YAYANNA;SINHALA LETTER ALPAPRAANA=BAYANNA,CAYANNA,DAYANNA,DDAYANNA,GAYANNA,JAYANNA,KAYANNA,
PAYANNA,TAYANNA,TTAYANNA;SINHALA LETTER AMBA=BAYANNA;SINHALA LETTER DANTAJA=LAYANNA,NAYANNA,
SAYANNA;SINHALA LETTER KANTAJA=NAASIKYAYA;SINHALA LETTER MAHAAPRAANA=BAYANNA,CAYANNA,DAYANNA,
DDAYANNA,GAYANNA,JAYANNA,KAYANNA,PAYANNA,TAYANNA,TTAYANNA;SINHALA LETTER MUURDHAJA=LAYANNA,NAYANNA,
SAYANNA;SINHALA LETTER SANYAKA=DAYANNA,DDAYANNA,GAYANNA,JAYANNA;SINHALA LETTER TAALUJA=NAASIKYAYA,
SAYANNA;SINHALA LETTER TAALUJA SANYOOGA=NAAKSIKYAYA;SINHALA LITH DIGIT=EIGHT,FIVE,FOUR,NINE,ONE,
SEVEN,SIX,THREE,TWO,ZERO;SINHALA PUNCTUATION=KUNDDALIYA;SINHALA SIGN=AL-LAKUNA,ANUSVARAYA,
CANDRABINDU,VISARGAYA;SINHALA VOWEL SIGN=AELA-PILLA,GAETTA-PILLA,GAYANUKITTA,KOMBUVA;
SINHALA VOWEL SIGN DIGA=AEDA-PILLA,GAETTA-PILLA,GAYANUKITTA,IS-PILLA,KOMBUVA,PAA-PILLA;
SINHALA VOWEL SIGN KETTI=AEDA-PILLA,IS-PILLA,PAA-PILLA;SINHALA VOWEL SIGN KOMBU=DEKA;
SINHALA VOWEL SIGN KOMBUVA HAA=AELA-PILLA,GAYANUKITTA;
SINHALA VOWEL SIGN KOMBUVA HAA DIGA=AELA-PILLA;SIX PETALLED BLACK AND WHITE=FLORETTE;
SIX POINTED BLACK=STAR;SIX POINTED PINWHEEL=STAR;SIX POINTED STAR WITH MIDDLE=DOT;SIX-PER-EM=SPACE;
SIXTEEN POINTED=ASTERISK;SKI AND SKI=BOOT;SKULL AND=CROSSBONES;SLANTED EQUAL TO OR=GREATER-THAN,
LESS-THAN;SLANTED EQUAL TO OR GREATER-THAN WITH DOT=INSIDE;
SLANTED EQUAL TO OR LESS-THAN WITH DOT=INSIDE;SLANTED NORTH ARROW WITH HOOKED=HEAD;
SLANTED NORTH ARROW WITH HORIZONTAL=TAIL;SLAVONIC=ASTERISK;SLEEPING=ACCOMMODATION,FACE,SYMBOL;
SLEEPY=FACE;SLEUTH OR=SPY;SLICE OF=PIZZA;SLIGHTLY FROWNING=FACE;SLIGHTLY SMILING=FACE;
SLOPING LARGE=AND,OR;SLOT=MACHINE;SMALL=AIRPLANE,AMPERSAND,ASTERISK,COLON,COMMA,HYPHEN-MINUS,
SEMICOLON,TILDE;SMALL BLUE=DIAMOND;SMALL COMMERCIAL=AT;SMALL CONTAINS AS=MEMBER;
SMALL CONTAINS WITH=OVERBAR;SMALL CONTAINS WITH VERTICAL BAR AT END OF HORIZONTAL=STROKE;
SMALL DOLLAR=SIGN;SMALL ELEMENT=OF;SMALL ELEMENT OF WITH=OVERBAR;
SMALL ELEMENT OF WITH VERTICAL BAR AT END OF HORIZONTAL=STROKE;SMALL EM=DASH;SMALL EQUALS=SIGN;
SMALL EXCLAMATION=MARK;SMALL FULL=STOP;SMALL GREATER-THAN=SIGN;SMALL IDEOGRAPHIC=COMMA;
SMALL LEFT=PARENTHESIS;SMALL LEFT CURLY=BRACKET;SMALL LEFT TORTOISE SHELL=BRACKET;
SMALL LESS-THAN=SIGN;SMALL NUMBER=SIGN;SMALL ORANGE=DIAMOND;SMALL PERCENT=SIGN;SMALL PLUS=SIGN;
SMALL QUESTION=MARK;SMALL REVERSE=SOLIDUS;SMALL RIGHT=PARENTHESIS;SMALL RIGHT CURLY=BRACKET;
SMALL RIGHT TORTOISE SHELL=BRACKET;SMALL ROMAN NUMERAL=EIGHT,ELEVEN,FIFTY,FIVE,FOUR,NINE,ONE,SEVEN,
SIX,TEN,THREE,TWELVE,TWO;SMALL ROMAN NUMERAL FIVE=HUNDRED;SMALL ROMAN NUMERAL ONE=HUNDRED,THOUSAND;
SMALL TWO DOTS OVER ONE DOT=PUNCTUATION;SMALL VEE WITH=UNDERBAR;SMALLER=THAN;
SMALLER THAN OR EQUAL=TO;SMASH=PRODUCT;SMILING CAT FACE WITH HEART-SHAPED=EYES;
SMILING CAT FACE WITH OPEN=MOUTH;SMILING FACE WITH=HALO,HORNS,SUNGLASSES,TEAR;
SMILING FACE WITH HEART-SHAPED=EYES;SMILING FACE WITH OPEN=MOUTH;
SMILING FACE WITH OPEN MOUTH AND COLD=SWEAT;SMILING FACE WITH OPEN MOUTH AND SMILING=EYES;
SMILING FACE WITH OPEN MOUTH AND TIGHTLY-CLOSED=EYES;SMILING FACE WITH SMILING=EYES;
SMILING FACE WITH SMILING EYES AND HAND COVERING=MOUTH;
SMILING FACE WITH SMILING EYES AND THREE=HEARTS;SMIRKING=FACE;SMOKING=SYMBOL;SNEEZING=FACE;
SNOW CAPPED=MOUNTAIN;SNOWMAN WITHOUT=SNOW;SOCCER=BALL;SOFT=HYPHEN;SOFT ICE=CREAM;
SOFT SHELL FLOPPY=DISK;SOFTWARE-FUNCTION=SYMBOL;SOGDIAN COMBINING CURVE=ABOVE,BELOW;
SOGDIAN COMBINING DOT=ABOVE,BELOW;SOGDIAN COMBINING HOOK=ABOVE,BELOW;
SOGDIAN COMBINING LONG HOOK=BELOW;SOGDIAN COMBINING RESH=BELOW;SOGDIAN COMBINING STROKE=BELOW;
SOGDIAN COMBINING TWO DOTS=ABOVE,BELOW;SOGDIAN INDEPENDENT=SHIN;SOGDIAN LETTER=ALEPH,AYIN,BETH,
FETH,GIMEL,HE,HETH,KAPH,LAMEDH,LESH,MEM,NUN,PE,RESH-AYIN,SADHE,SAMEKH,SHIN,TAW,WAW,YODH,ZAYIN;
SOGDIAN NUMBER=ONE,TEN,TWENTY;SOGDIAN NUMBER ONE=HUNDRED;SOGDIAN PUNCTUATION CIRCLE WITH=DOT;
SOGDIAN PUNCTUATION HALF CIRCLE WITH=DOT;SOGDIAN PUNCTUATION TWO CIRCLES WITH=DOTS;
SOGDIAN PUNCTUATION TWO VERTICAL=BARS;SOGDIAN PUNCTUATION TWO VERTICAL BARS WITH=DOTS;
SOLID QUILT SQUARE=ORNAMENT;SOLID QUILT SQUARE ORNAMENT IN BLACK=SQUARE;SOLIDUS WITH=OVERBAR;
SOM=SIGN;SOON WITH RIGHTWARDS ARROW=ABOVE;SORA SOMPENG DIGIT=EIGHT,FIVE,FOUR,NINE,ONE,SEVEN,SIX,
THREE,TWO,ZERO;SORA SOMPENG LETTER=AH,BAH,CAH,DAH,EEH,EH,GAH,HAH,IH,JAH,KAH,LAH,MAE,MAH,NAH,NGAH,
NYAH,OH,PAH,RAH,SAH,TAH,UH,VAH,YAH;SOUND RECORDING=COPYRIGHT;SOUTH EAST=ARROW;
SOUTH EAST ARROW AND SOUTH WEST=ARROW;SOUTH EAST ARROW CROSSING NORTH EAST=ARROW;
SOUTH EAST ARROW TO=CORNER;SOUTH EAST ARROW WITH=HOOK;SOUTH EAST BLACK=ARROW;
SOUTH EAST DOUBLE=ARROW;SOUTH EAST POINTING=BUD,LEAF;SOUTH EAST POINTING VINE=LEAF;
SOUTH EAST SANS-SERIF=ARROW;SOUTH EAST TRIANGLE-HEADED=ARROW;
SOUTH EAST TRIANGLE-HEADED ARROW TO=BAR;SOUTH EAST WHITE=ARROW;SOUTH WEST=ARROW;
SOUTH WEST ARROW AND NORTH WEST=ARROW;SOUTH WEST ARROW WITH=HOOK;SOUTH WEST BLACK=ARROW;
SOUTH WEST DOUBLE=ARROW;SOUTH WEST POINTING=BUD,LEAF;SOUTH WEST POINTING VINE=LEAF;
SOUTH WEST SANS-SERIF=ARROW;SOUTH WEST TRIANGLE-HEADED=ARROW;
SOUTH WEST TRIANGLE-HEADED ARROW TO=BAR;SOUTH WEST WHITE=ARROW;SOYOMBO=SUBJOINER;
SOYOMBO CLUSTER-INITIAL LETTER=LA,RA,SA,SHA;SOYOMBO FINAL CONSONANT SIGN=-A,B,D,G,K,L,M,N,NG,R,S,
SH;SOYOMBO GEMINATION=MARK;SOYOMBO HEAD MARK WITH MOON AND=SUN;
SOYOMBO HEAD MARK WITH MOON AND SUN AND=FLAME;SOYOMBO HEAD MARK WITH MOON AND SUN AND TRIPLE=FLAME;
SOYOMBO LETTER=-A,A,BA,BHA,CA,CHA,DA,DDA,DDHA,DHA,DZA,GA,GHA,HA,JA,JHA,KA,KHA,KSSA,LA,MA,NA,NGA,
NNA,NYA,PA,PHA,RA,SA,SHA,SSA,TA,THA,TSA,TSHA,TTA,TTHA,VA,YA,ZA,ZHA;SOYOMBO MARK=PLUTA,SHAD,TSHEG;
SOYOMBO MARK DOUBLE=SHAD;SOYOMBO SIGN=ANUSVARA,JIHVAMULIYA,UPADHMANIYA,VISARGA;
SOYOMBO TERMINAL=MARK-1,MARK-2;SOYOMBO VOWEL LENGTH=MARK;SOYOMBO VOWEL SIGN=AI,AU,E,I,O,OE,U,UE;
SOYOMBO VOWEL SIGN VOCALIC=L,R;SPARKLING=HEART;SPEAK-NO-EVIL=MONKEY;
SPEAKER WITH CANCELLATION=STROKE;SPEAKER WITH ONE SOUND=WAVE;SPEAKER WITH THREE SOUND=WAVES;
SPEAKING HEAD IN=SILHOUETTE;SPEECH=BALLOON;SPESMILO=SIGN;SPHERICAL=ANGLE;
SPHERICAL ANGLE OPENING=LEFT,UP;SPIDER=WEB;SPIRAL=SHELL;SPIRAL CALENDAR=PAD;SPIRAL NOTE=PAD;
SPLASHING SWEAT=SYMBOL;SPOOL OF=THREAD;SPORTS=MEDAL;SPOUTING=WHALE;SQUARE=AARU,AM,ANPEA,APAATO,
ARUHUA,AU,BAARERU,BAR,BEETA,BIRU,BORUTO,BQ,BUSSYERU,CAL,CAP,CC,CD,CM,CO,CORPORATION,CUP,DA,DAASU,
DB,DESI,DJ,DL,DM,DORU,EEKAA,ERG,ESUKUUDO,EV,FM,FOOT,GAL,GANMA,GARON,GB,GHZ,GIGA,GINII,GIRUDAA,GPA,
GURAMU,GURAMUTON,GY,HA,HAITU,HEKUTAARU,HERUTU,HG,HON,HOON,HOORU,HP,HPA,HUARADDO,HUIITO,HURAN,HZ,IN,
ININGU,INTI,IU,KA,KAIRI,KARATTO,KARORII,KB,KCAL,KEESU,KG,KHZ,KIRO,KIROGURAMU,KIROMEETORU,KIROWATTO,
KK,KL,KM,KOOPO,KORUNA,KPA,KT,KUROONE,KURUZEIRO,KV,KW,KYURII,LM,LN,LOG,LOZENGE,LX,MA,MAHHA,MAIKURO,
MAIRU,MANSYON,MARUKU,MB,MEETORU,MEGA,MEGATON,MG,MHZ,MIKURON,MIL,MIRI,MIRIBAARU,ML,MM,MOL,MPA,MS,MV,
MW,NA,NANO,NF,NM,NOTTO,NS,NV,NW,ONSU,OOMU,OV,PA,PAASENTO,PAATU,PC,PEEZI,PENIHI,PENSU,PESO,PF,PH,
PIASUTORU,PIKO,PIKURU,PM,POINTO,PONDO,PPM,PR,PS,PV,PW,RAD,REMU,RENTOGEN,RIRA,RITTORU,ROOT,RUPII,
RUUBURU,SAIKURU,SANTIIMU,SENTI,SENTO,SIRINGU,SR,SV,TARGET,THZ,TON,UON,WATTO,WB,YAADO,YAARU,YUAN;
SQUARE A OVER=M;SQUARE C OVER=KG;SQUARE CM=CUBED,SQUARED;SQUARE DM=CUBED,SQUARED;
SQUARE ERA NAME=HEISEI,MEIZI,REIWA,SYOUWA,TAISYOU;SQUARE FOUR=CORNERS;SQUARE HIRAGANA=HOKA;
SQUARE IMAGE=OF;SQUARE IMAGE OF OR EQUAL=TO;SQUARE IMAGE OF OR NOT EQUAL=TO;SQUARE K=OHM;
SQUARE KM=CAPITAL,CUBED,SQUARED;SQUARE LEFT OPEN BOX=OPERATOR;SQUARE M=CUBED,OHM,SQUARED;
SQUARE M OVER=S;SQUARE M OVER S=SQUARED;SQUARE MB=SMALL;SQUARE MM=CUBED,SQUARED;SQUARE MU=A,F,G,L,
M,S,V,W;SQUARE MV=MEGA;SQUARE MW=MEGA;SQUARE ORIGINAL=OF;SQUARE ORIGINAL OF OR EQUAL=TO;
SQUARE ORIGINAL OF OR NOT EQUAL=TO;SQUARE PA=AMPS;SQUARE POSITION=INDICATOR;SQUARE RAD OVER=S;
SQUARE RAD OVER S=SQUARED;SQUARE RIGHT OPEN BOX=OPERATOR;SQUARE V OVER=M;
SQUARE WITH BOTTOM HALF=BLACK;SQUARE WITH CONTOURED=OUTLINE;SQUARE WITH DIAGONAL CROSSHATCH=FILL;
SQUARE WITH HORIZONTAL=FILL;SQUARE WITH LEFT HALF=BLACK;SQUARE WITH LOWER LEFT DIAGONAL HALF=BLACK;
SQUARE WITH LOWER RIGHT DIAGONAL HALF=BLACK;SQUARE WITH ORTHOGONAL CROSSHATCH=FILL;
SQUARE WITH RIGHT HALF=BLACK;SQUARE WITH TOP HALF=BLACK;SQUARE WITH UPPER LEFT DIAGONAL HALF=BLACK;
SQUARE WITH UPPER LEFT TO LOWER RIGHT=FILL;SQUARE WITH UPPER RIGHT DIAGONAL HALF=BLACK;
SQUARE WITH UPPER RIGHT TO LOWER LEFT=FILL;SQUARE WITH VERTICAL=FILL;SQUARED=ASTERISK,CL,COOL,FREE,
HC,HDR,HI-RES,HV,ID,KEY,LOSSLESS,MINUS,MV,NEW,NG,OK,PLUS,PPV,SALTIRE,SD,SHV,SOS,SQUARE,SS,TIMES,
UHD,VOD,VS,WC;SQUARED CJK UNIFIED=IDEOGRAPH-4E00,IDEOGRAPH-4E09,IDEOGRAPH-4E2D,IDEOGRAPH-4E8C,
IDEOGRAPH-4EA4,IDEOGRAPH-518D,IDEOGRAPH-521D,IDEOGRAPH-524D,IDEOGRAPH-5272,IDEOGRAPH-53CC,
IDEOGRAPH-53F3,IDEOGRAPH-5408,IDEOGRAPH-5439,IDEOGRAPH-55B6,IDEOGRAPH-58F0,IDEOGRAPH-591A,
IDEOGRAPH-5929,IDEOGRAPH-5B57,IDEOGRAPH-5DE6,IDEOGRAPH-5F8C,IDEOGRAPH-624B,IDEOGRAPH-6253,
IDEOGRAPH-6295,IDEOGRAPH-6307,IDEOGRAPH-6355,IDEOGRAPH-6599,IDEOGRAPH-65B0,IDEOGRAPH-6620,
IDEOGRAPH-6708,IDEOGRAPH-6709,IDEOGRAPH-6E80,IDEOGRAPH-6F14,IDEOGRAPH-7121,IDEOGRAPH-751F,
IDEOGRAPH-7533,IDEOGRAPH-7981,IDEOGRAPH-7A7A,IDEOGRAPH-7D42,IDEOGRAPH-89E3,IDEOGRAPH-8CA9,
IDEOGRAPH-8D70,IDEOGRAPH-904A,IDEOGRAPH-914D;SQUARED DOT=OPERATOR;SQUARED EIGHT=K;
SQUARED FALLING DIAGONAL=SLASH;SQUARED FIVE POINT=ONE;SQUARED FOUR=K;SQUARED FOUR DOT=PUNCTUATION;
SQUARED KATAKANA=DE,KOKO,SA;SQUARED LATIN CAPITAL LETTER=A,B,C,D,E,F,G,H,I,J,K,L,M,N,O,P,Q,R,S,T,U,
V,W,X,Y,Z;SQUARED LATIN SMALL LETTER=D;SQUARED LOGICAL=AND,OR;SQUARED ONE HUNDRED TWENTY=P;
SQUARED RISING DIAGONAL=SLASH;SQUARED SECOND=SCREEN;SQUARED SEVEN POINT=ONE;SQUARED SIXTY=P;
SQUARED SMALL=CIRCLE;SQUARED THREE=D;SQUARED TWENTY-TWO POINT=TWO;SQUARED TWO=K;
SQUARED UP WITH EXCLAMATION=MARK;SQUAT BLACK RIGHTWARDS=ARROW;STAFF OF=AESCULAPIUS,HERMES;
STAMPED=ENVELOPE;STANDING=PERSON;STAR=EQUALS,OPERATOR;STAR AND=CRESCENT;STAR OF=DAVID;
STAR WITH LEFT HALF=BLACK;STAR WITH RIGHT HALF=BLACK;START OF=HEADING,STRING,TEXT;
START OF GUARDED=AREA;START OF PROTECTED=AREA;START OF SELECTED=AREA;STATUE OF=LIBERTY;
STEAM=LOCOMOTIVE;STEAMING=BOWL;STENOGRAPHIC FULL=STOP;STICK=FIGURE;STICK FIGURE LEANING=LEFT,RIGHT;
STICK FIGURE WITH=DRESS;STICK FIGURE WITH ARMS=RAISED;STOCK=CHART;STRAIGHT=RULER;
STRESS OUTLINED WHITE=STAR;STRICTLY EQUIVALENT=TO;STRING=TERMINATOR;STUDIO=MICROPHONE;
STUFFED=FLATBREAD;SUBSCRIPT=EIGHT,FIVE,FOUR,MINUS,NINE,ONE,SEVEN,SIX,THREE,TWO,ZERO;
SUBSCRIPT EQUALS=SIGN;SUBSCRIPT LEFT=PARENTHESIS;SUBSCRIPT PLUS=SIGN;SUBSCRIPT RIGHT=PARENTHESIS;
SUBSET=OF;SUBSET ABOVE=SUBSET,SUPERSET;SUBSET ABOVE RIGHTWARDS=ARROW;
SUBSET OF ABOVE ALMOST EQUAL=TO;SUBSET OF ABOVE EQUALS=SIGN;SUBSET OF ABOVE NOT EQUAL=TO;
SUBSET OF ABOVE TILDE=OPERATOR;SUBSET OF OR EQUAL=TO;SUBSET OF OR EQUAL TO WITH DOT=ABOVE;
SUBSET OF WITH NOT EQUAL=TO;SUBSET WITH=DOT;SUBSET WITH MULTIPLICATION SIGN=BELOW;
SUBSET WITH PLUS SIGN=BELOW;SUCCEEDS ABOVE ALMOST EQUAL=TO;SUCCEEDS ABOVE EQUALS=SIGN;
SUCCEEDS ABOVE NOT ALMOST EQUAL=TO;SUCCEEDS ABOVE NOT EQUAL=TO;
SUCCEEDS ABOVE SINGLE-LINE EQUALS=SIGN;SUCCEEDS ABOVE SINGLE-LINE NOT EQUAL=TO;
SUCCEEDS BUT NOT EQUIVALENT=TO;SUCCEEDS OR EQUAL=TO;SUCCEEDS OR EQUIVALENT=TO;
SUCCEEDS UNDER=RELATION;SUMMATION=BOTTOM,TOP;SUMMATION WITH=INTEGRAL;SUN BEHIND=CLOUD;
SUN WITH=FACE;SUNDANESE=AVAGRAHA;SUNDANESE CONSONANT SIGN=PAMINGKAL,PANYAKRA,PANYIKU;
SUNDANESE CONSONANT SIGN PASANGAN=MA,WA;SUNDANESE DIGIT=EIGHT,FIVE,FOUR,NINE,ONE,SEVEN,SIX,THREE,
TWO,ZERO;SUNDANESE LETTER=A,AE,BA,BHA,CA,DA,E,EU,FA,GA,HA,I,JA,KA,KHA,LA,LEU,MA,NA,NGA,NYA,O,PA,QA,
RA,REU,SA,SYA,TA,U,VA,WA,XA,YA,ZA;SUNDANESE LETTER FINAL=K,M;SUNDANESE PUNCTUATION BINDU=CAKRA,
PANGLONG,PURNAMA,SURYA;SUNDANESE PUNCTUATION BINDU BA=SATANGA;
SUNDANESE PUNCTUATION BINDU DA=SATANGA;SUNDANESE PUNCTUATION BINDU KA=SATANGA;
SUNDANESE PUNCTUATION BINDU LEU=SATANGA;SUNDANESE SIGN=PAMAAEH,PANGLAYAR,PANGWISAD,PANYECEK,VIRAMA;
SUNDANESE VOWEL SIGN=PAMEPET,PANAELAENG,PANEULEUNG,PANGHULU,PANOLONG,PANYUKU;
SUNRISE OVER=MOUNTAINS;SUNSET OVER=BUILDINGS;SUPERSCRIPT=EIGHT,FIVE,FOUR,MINUS,NINE,ONE,SEVEN,SIX,
THREE,TWO,ZERO;SUPERSCRIPT EQUALS=SIGN;SUPERSCRIPT LATIN SMALL LETTER=I,N;
SUPERSCRIPT LEFT=PARENTHESIS;SUPERSCRIPT PLUS=SIGN;SUPERSCRIPT RIGHT=PARENTHESIS;SUPERSET=OF;
SUPERSET ABOVE=SUBSET,SUPERSET;SUPERSET ABOVE LEFTWARDS=ARROW;SUPERSET BESIDE=SUBSET;
SUPERSET BESIDE AND JOINED BY DASH WITH=SUBSET;SUPERSET OF ABOVE ALMOST EQUAL=TO;
SUPERSET OF ABOVE EQUALS=SIGN;SUPERSET OF ABOVE NOT EQUAL=TO;SUPERSET OF ABOVE TILDE=OPERATOR;
SUPERSET OF OR EQUAL=TO;SUPERSET OF OR EQUAL TO WITH DOT=ABOVE;SUPERSET OF WITH NOT EQUAL=TO;
SUPERSET PRECEDING=SOLIDUS;SUPERSET WITH=DOT;SUPERSET WITH MULTIPLICATION SIGN=BELOW;
SUPERSET WITH PLUS SIGN=BELOW;SURFACE=INTEGRAL;SUSPENSION=RAILWAY;SWASH AMPERSAND=ORNAMENT;
SWUNG=DASH;SYLOTI NAGRI LETTER=A,BHO,BO,CHO,CO,DDHO,DDO,DHO,DO,E,GHO,GO,HO,I,JHO,JO,KHO,KO,LO,MO,
NO,O,PHO,PO,RO,RRO,SO,THO,TO,TTHO,TTO,U;SYLOTI NAGRI POETRY=MARK-1,MARK-2,MARK-3,MARK-4;
SYLOTI NAGRI SIGN=ANUSVARA,DVISVARA,HASANTA;SYLOTI NAGRI SIGN ALTERNATE=HASANTA;
SYLOTI NAGRI VOWEL SIGN=A,E,I,OO,U;SYMBOL FOR=ACKNOWLEDGE,BACKSPACE,BELL,CANCEL,DELETE,ENQUIRY,
ESCAPE,NEWLINE,NULL,SPACE,SUBSTITUTE;SYMBOL FOR CARRIAGE=RETURN;SYMBOL FOR DATA LINK=ESCAPE;
SYMBOL FOR DELETE FORM=TWO;SYMBOL FOR DEVICE CONTROL=FOUR,ONE,THREE,TWO;SYMBOL FOR END OF=MEDIUM,
TEXT,TRANSMISSION;SYMBOL FOR END OF TRANSMISSION=BLOCK;SYMBOL FOR FILE=SEPARATOR;
SYMBOL FOR FORM=FEED;SYMBOL FOR GROUP=SEPARATOR;SYMBOL FOR HORIZONTAL=TABULATION;
SYMBOL FOR LINE=FEED;SYMBOL FOR MARKS=CHAPTER;SYMBOL FOR NEGATIVE=ACKNOWLEDGE;
SYMBOL FOR RECORD=SEPARATOR;SYMBOL FOR SAMARITAN=SOURCE;SYMBOL FOR SHIFT=IN,OUT;
SYMBOL FOR START OF=HEADING,TEXT;SYMBOL FOR SUBSTITUTE FORM=TWO;SYMBOL FOR SYNCHRONOUS=IDLE;
SYMBOL FOR TYPE A=ELECTRONICS;SYMBOL FOR UNIT=SEPARATOR;SYMBOL FOR VERTICAL=TABULATION;
SYNCHRONOUS=IDLE;SYRIAC=BARREKH,CONTRACTION,MUSIC,QUSHSHAYA,RUKKAKHA,RWAHA;
SYRIAC ABBREVIATION=MARK;SYRIAC COLON SKEWED=LEFT,RIGHT;SYRIAC DOTTED ZLAMA=ANGULAR,HORIZONTAL;
SYRIAC END OF=PARAGRAPH;SYRIAC ESASA=ABOVE,BELOW;SYRIAC FEMININE=DOT;SYRIAC HARKLEAN=ASTERISCUS,
METOBELUS,OBELUS;SYRIAC HBASA=ABOVE,BELOW;SYRIAC HBASA-ESASA=DOTTED;SYRIAC HORIZONTAL=COLON;
SYRIAC LETTER=ALAPH,BETH,DALATH,E,GAMAL,HE,HETH,KAPH,LAMADH,MIM,NUN,PE,QAPH,RISH,SADHE,SEMKATH,
SHIN,TAW,TETH,WAW,YUDH,ZAIN;SYRIAC LETTER DOTLESS DALATH=RISH;SYRIAC LETTER FINAL=SEMKATH;
SYRIAC LETTER GAMAL=GARSHUNI;SYRIAC LETTER MALAYALAM=BHA,JA,LLA,LLLA,NGA,NNA,NNNA,NYA,RA,SSA,TTA;
SYRIAC LETTER PERSIAN=BHETH,DHALATH,GHAMAL;SYRIAC LETTER REVERSED=PE;SYRIAC LETTER SOGDIAN=FE,
KHAPH,ZHAIN;SYRIAC LETTER SUPERSCRIPT=ALAPH;SYRIAC LETTER TETH=GARSHUNI;SYRIAC LETTER YUDH=HE;
SYRIAC OBLIQUE LINE=ABOVE,BELOW;SYRIAC PTHAHA=ABOVE,BELOW,DOTTED;SYRIAC RBASA=ABOVE,BELOW;
SYRIAC SUBLINEAR=COLON;SYRIAC SUBLINEAR COLON SKEWED=LEFT,RIGHT;SYRIAC SUBLINEAR FULL=STOP;
SYRIAC SUPRALINEAR=COLON;SYRIAC SUPRALINEAR COLON SKEWED=LEFT;SYRIAC SUPRALINEAR FULL=STOP;
SYRIAC THREE DOTS=ABOVE,BELOW;SYRIAC TWO VERTICAL DOTS=ABOVE,BELOW;SYRIAC ZQAPHA=ABOVE,BELOW,
DOTTED;TABLE TENNIS PADDLE AND=BALL;TAG=AMPERSAND,APOSTROPHE,ASTERISK,COLON,COMMA,HYPHEN-MINUS,
SEMICOLON,SOLIDUS,SPACE,TILDE;TAG CIRCUMFLEX=ACCENT;TAG COMMERCIAL=AT;TAG DIGIT=EIGHT,FIVE,FOUR,
NINE,ONE,SEVEN,SIX,THREE,TWO,ZERO;TAG DOLLAR=SIGN;TAG EQUALS=SIGN;TAG EXCLAMATION=MARK;
TAG FULL=STOP;TAG GRAVE=ACCENT;TAG GREATER-THAN=SIGN;TAG LATIN CAPITAL LETTER=A,B,C,D,E,F,G,H,I,J,
K,L,M,N,O,P,Q,R,S,T,U,V,W,X,Y,Z;TAG LATIN SMALL LETTER=A,B,C,D,E,F,G,H,I,J,K,L,M,N,O,P,Q,R,S,T,U,V,
W,X,Y,Z;TAG LEFT=PARENTHESIS;TAG LEFT CURLY=BRACKET;TAG LEFT SQUARE=BRACKET;TAG LESS-THAN=SIGN;
TAG LOW=LINE;TAG NUMBER=SIGN;TAG PERCENT=SIGN;TAG PLUS=SIGN;TAG QUESTION=MARK;TAG QUOTATION=MARK;
TAG REVERSE=SOLIDUS;TAG RIGHT=PARENTHESIS;TAG RIGHT CURLY=BRACKET;TAG RIGHT SQUARE=BRACKET;
TAG VERTICAL=LINE;TAGALOG LETTER=A,BA,DA,GA,HA,I,KA,LA,MA,NA,NGA,PA,RA,SA,TA,U,WA,YA;
TAGALOG LETTER ARCHAIC=RA;TAGALOG SIGN=PAMUDPOD,VIRAMA;TAGALOG VOWEL SIGN=I,U;TAGBANWA LETTER=A,BA,
DA,GA,I,KA,LA,MA,NA,NGA,PA,SA,TA,U,WA,YA;TAGBANWA VOWEL SIGN=I,U;TAI LE LETTER=A,AI,AUE,E,EE,EH,FA,
HA,I,KA,KHA,LA,MA,NA,NGA,O,OO,PA,PHA,QA,SA,TA,THA,TONE-2,TONE-3,TONE-4,TONE-5,TONE-6,TSA,TSHA,U,UE,
VA,XA,YA;TAI THAM COMBINING CRYPTOGRAMMIC=DOT;TAI THAM CONSONANT SIGN=BA,MA,SA;
TAI THAM CONSONANT SIGN FINAL=NGA;TAI THAM CONSONANT SIGN HIGH RATHA OR LOW=PA;
TAI THAM CONSONANT SIGN LA TANG=LAI;TAI THAM CONSONANT SIGN LOW=PA;
TAI THAM CONSONANT SIGN MEDIAL=LA,RA;TAI THAM HORA DIGIT=EIGHT,FIVE,FOUR,NINE,ONE,SEVEN,SIX,THREE,
TWO,ZERO;TAI THAM LETTER=A,BA,DA,EE,I,II,LA,LAE,LLA,LUE,MA,NA,NGA,NYA,OO,RA,RANA,RATA,RUE,U,UU,WA;
TAI THAM LETTER GREAT=SA;TAI THAM LETTER HIGH=CA,CHA,FA,HA,KA,KHA,KXA,PA,PHA,RATHA,SA,SHA,SSA,TA,
THA,YA;TAI THAM LETTER LOW=CA,CHA,FA,HA,KA,KHA,KXA,PA,PHA,RATHA,SA,TA,THA,YA;TAI THAM SIGN=CAANG,
DOKMAI,HANG,HOY,KAAN,KAANKUU,KEOW,SAKOT,SATKAAN,SATKAANKUU,SAWAN,TONE-1,TONE-2,WIANG,WIANGWAAK;
TAI THAM SIGN KHUEN=TONE-3,TONE-4,TONE-5;TAI THAM SIGN KHUEN-LUE=KARAN;TAI THAM SIGN MAI=KANG,SAM,
YAMOK;TAI THAM SIGN MAI KANG=LAI;TAI THAM SIGN RA=HAAM;TAI THAM SIGN REVERSED ROTATED=RANA;
TAI THAM THAM DIGIT=EIGHT,FIVE,FOUR,NINE,ONE,SEVEN,SIX,THREE,TWO,ZERO;TAI THAM VOWEL SIGN=A,AA,AE,
AI,E,I,II,O,OO,OY,U,UE,UU,UUE;TAI THAM VOWEL SIGN MAI=SAT;TAI THAM VOWEL SIGN OA=ABOVE,BELOW;
TAI THAM VOWEL SIGN TALL=AA;TAI THAM VOWEL SIGN THAM=AI;TAI VIET LETTER HIGH=BO,CHO,CO,DO,FO,GO,HO,
KHHO,KHO,KO,LO,MO,NGO,NO,NYO,O,PHO,PO,RO,SO,THO,TO,VO,YO;TAI VIET LETTER LOW=BO,CHO,CO,DO,FO,GO,HO,
KHHO,KHO,KO,LO,MO,NGO,NO,NYO,O,PHO,PO,RO,SO,THO,TO,VO,YO;TAI VIET MAI=KANG,KHIT;
TAI VIET SYMBOL=KON,NUENG,SAM;TAI VIET SYMBOL HO=HOI;TAI VIET SYMBOL KOI=KOI;TAI VIET TONE MAI=EK,
NUENG,SONG,THO;TAI VIET VOWEL=AA,AM,AN,AUE,AY,E,I,IA,O,U,UA,UE,UEA;TAKEOUT=BOX;
TAKRI ABBREVIATION=SIGN;TAKRI DIGIT=EIGHT,FIVE,FOUR,NINE,ONE,SEVEN,SIX,THREE,TWO,ZERO;
TAKRI LETTER=A,AA,AI,AU,BA,BHA,CA,CHA,DA,DDA,DDHA,DHA,E,GA,GHA,HA,I,II,JA,JHA,KA,KHA,LA,MA,NA,NGA,
NNA,NYA,O,PA,PHA,RA,RRA,SA,SHA,TA,THA,TTA,TTHA,U,UU,VA,YA;TAKRI LETTER ARCHAIC=KHA;
TAKRI SIGN=ANUSVARA,NUKTA,VIRAMA,VISARGA;TAKRI VOWEL SIGN=AA,AI,AU,E,I,II,O,U,UU;TALLY MARK=FIVE,
ONE;TAMIL=OM;TAMIL AND ODD=SIGN;TAMIL AS ABOVE=SIGN;TAMIL AU LENGTH=MARK;TAMIL CREDIT=SIGN;
TAMIL CURRENT=SIGN;TAMIL DAY=SIGN;TAMIL DEBIT=SIGN;TAMIL DIGIT=EIGHT,FIVE,FOUR,NINE,ONE,SEVEN,SIX,
THREE,TWO,ZERO;TAMIL DRY CULTIVATION=SIGN;TAMIL FRACTION DOWNSCALING FACTOR=KIIZH;
TAMIL FRACTION ONE=EIGHTH,EIGHTIETH,FIFTH,FORTIETH,HALF-1,HALF-2,ONE-HUNDRED-AND-SIXTIETH,QUARTER,
SIXTEENTH-1,SIXTEENTH-2,SIXTY-FOURTH,TENTH,THIRTY-SECOND,THREE-HUNDRED-AND-TWENTIETH,TWENTIETH;
TAMIL FRACTION THREE=EIGHTIETHS,QUARTERS,SIXTEENTHS,SIXTY-FOURTHS,TWENTIETHS;
TAMIL IN POSSESSION=SIGN;TAMIL LAND=SIGN;TAMIL LETTER=A,AA,AI,AU,CA,E,EE,HA,I,II,JA,KA,LA,LLA,LLLA,
MA,NA,NGA,NNA,NNNA,NYA,O,OO,PA,RA,RRA,SA,SHA,SSA,TA,TTA,U,UU,VA,YA;TAMIL MONTH=SIGN;
TAMIL NUMBER=SIGN,TEN;TAMIL NUMBER ONE=HUNDRED,THOUSAND;TAMIL PUNCTUATION END OF=TEXT;
TAMIL RUPEE=SIGN;TAMIL SALT PAN=SIGN;TAMIL SIGN=AAZHAAKKU,ANUSVARA,CEVITU,KAACU,KURUNI,KUZHI,
MUKKURUNI,MUTHALIYA,MUUVUZHAKKU,NEL,PAARAM,PANAM,PATHAKKU,PON,UZHAKKU,VAKAIYARAA,VARAAKAN,VELI,
VIRAMA,VISARGA;TAMIL SPENT=SIGN;TAMIL STARTING FROM=SIGN;TAMIL TOTAL=SIGN;
TAMIL TRADITIONAL CREDIT=SIGN;TAMIL TRADITIONAL NUMBER=SIGN;TAMIL VOWEL SIGN=AA,AI,AU,E,EE,I,II,O,
OO,U,UU;TAMIL WET CULTIVATION=SIGN;TAMIL YEAR=SIGN;TANABATA=TREE;TANGSA DIGIT=EIGHT,FIVE,FOUR,NINE,
ONE,SEVEN,SIX,THREE,TWO,ZERO;TANGSA LETTER=AC,AQ,AWC,AWQ,AWX,AWZ,AX,AZ,BA,CA,CHA,DA,DHA,EC,EQ,EX,
EZ,FA,GA,GHA,HA,HTA,HTTA,IC,IQ,IX,IZ,KA,KHA,LA,MA,MC,MQ,MX,MZ,NA,NGA,NHA,NYA,OC,OQ,OX,OZ,PA,PHA,RA,
SA,SHA,TA,THA,TSA,UC,UEC,UEQ,UEX,UEZ,UIC,UIQ,UIUC,UIUQ,UIUX,UIUZ,UIX,UIZ,UQ,UX,UZ,VC,VQ,VX,VZ,WA,
XA,YA,ZA;TANGSA LETTER FINAL=NG;TANGSA LETTER LONG=UEX;TANGSA LETTER SHORT=AWX,UEZ;
TANGUT=COMPONENT-001,COMPONENT-002,COMPONENT-003,COMPONENT-004,COMPONENT-005,COMPONENT-006,
COMPONENT-007,COMPONENT-008,COMPONENT-009,COMPONENT-010,COMPONENT-011,COMPONENT-012,COMPONENT-013,
COMPONENT-014,COMPONENT-015,COMPONENT-016,COMPONENT-017,COMPONENT-018,COMPONENT-019,COMPONENT-020,
COMPONENT-021,COMPONENT-022,COMPONENT-023,COMPONENT-024,COMPONENT-025,COMPONENT-026,COMPONENT-027,
COMPONENT-028,COMPONENT-029,COMPONENT-030,COMPONENT-031,COMPONENT-032,COMPONENT-033,COMPONENT-034,
COMPONENT-035,COMPONENT-036,COMPONENT-037,COMPONENT-038,COMPONENT-039,COMPONENT-040,COMPONENT-041,
COMPONENT-042,COMPONENT-043,COMPONENT-044,COMPONENT-045,COMPONENT-046,COMPONENT-047,COMPONENT-048,
COMPONENT-049,COMPONENT-050,COMPONENT-051,COMPONENT-052,COMPONENT-053,COMPONENT-054,COMPONENT-055,
COMPONENT-056,COMPONENT-057,COMPONENT-058,COMPONENT-059,COMPONENT-060,COMPONENT-061,COMPONENT-062,
COMPONENT-063,COMPONENT-064,COMPONENT-065,COMPONENT-066,COMPONENT-067,COMPONENT-068,COMPONENT-069,
COMPONENT-070,COMPONENT-071,COMPONENT-072,COMPONENT-073,COMPONENT-074,COMPONENT-075,COMPONENT-076,
COMPONENT-077,COMPONENT-078,COMPONENT-079,COMPONENT-080,COMPONENT-081,COMPONENT-082,COMPONENT-083,
COMPONENT-084,COMPONENT-085,COMPONENT-086,COMPONENT-087,COMPONENT-088,COMPONENT-089,COMPONENT-090,
COMPONENT-091,COMPONENT-092,COMPONENT-093,COMPONENT-094,COMPONENT-095,COMPONENT-096,COMPONENT-097,
COMPONENT-098,COMPONENT-099,COMPONENT-100,COMPONENT-101,COMPONENT-102,COMPONENT-103,COMPONENT-104,
COMPONENT-105,COMPONENT-106,COMPONENT-107,COMPONENT-108,COMPONENT-109,COMPONENT-110,COMPONENT-111,
COMPONENT-112,COMPONENT-113,COMPONENT-114,COMPONENT-115,COMPONENT-116,COMPONENT-117,COMPONENT-118,
COMPONENT-119,COMPONENT-120,COMPONENT-121,COMPONENT-122,COMPONENT-123,COMPONENT-124,COMPONENT-125,
COMPONENT-126,COMPONENT-127,COMPONENT-128,COMPONENT-129,COMPONENT-130,COMPONENT-131,COMPONENT-132,
COMPONENT-133,COMPONENT-134,COMPONENT-135,COMPONENT-136,COMPONENT-137,COMPONENT-138,COMPONENT-139,
COMPONENT-140,COMPONENT-141,COMPONENT-142,COMPONENT-143,COMPONENT-144,COMPONENT-145,COMPONENT-146,
COMPONENT-147,COMPONENT-148,COMPONENT-149,COMPONENT-150,COMPONENT-151,COMPONENT-152,COMPONENT-153,
COMPONENT-154,COMPONENT-155,COMPONENT-156,COMPONENT-157,COMPONENT-158,COMPONENT-159,COMPONENT-160,
COMPONENT-161,COMPONENT-162,COMPONENT-163,COMPONENT-164,COMPONENT-165,COMPONENT-166,COMPONENT-167,
COMPONENT-168,COMPONENT-169,COMPONENT-170,COMPONENT-171,COMPONENT-172,COMPONENT-173,COMPONENT-174,
COMPONENT-175,COMPONENT-176,COMPONENT-177,COMPONENT-178,COMPONENT-179,COMPONENT-180,COMPONENT-181,
COMPONENT-182,COMPONENT-183,COMPONENT-184,COMPONENT-185,COMPONENT-186,COMPONENT-187,COMPONENT-188,
COMPONENT-189,COMPONENT-190,COMPONENT-191,COMPONENT-192,COMPONENT-193,COMPONENT-194,COMPONENT-195,
COMPONENT-196,COMPONENT-197,COMPONENT-198,COMPONENT-199,COMPONENT-200,COMPONENT-201,COMPONENT-202,
COMPONENT-203,COMPONENT-204,COMPONENT-205,COMPONENT-206,COMPONENT-207,COMPONENT-208,COMPONENT-209,
COMPONENT-210,COMPONENT-211,COMPONENT-212,COMPONENT-213,COMPONENT-214,COMPONENT-215,COMPONENT-216,
COMPONENT-217,COMPONENT-218,COMPONENT-219,COMPONENT-220,COMPONENT-221,COMPONENT-222,COMPONENT-223,
COMPONENT-224,COMPONENT-225,COMPONENT-226,COMPONENT-227,COMPONENT-228,COMPONENT-229,COMPONENT-230,
COMPONENT-231,COMPONENT-232,COMPONENT-233,COMPONENT-234,COMPONENT-235,COMPONENT-236,COMPONENT-237,
COMPONENT-238,COMPONENT-239,COMPONENT-240,COMPONENT-241,COMPONENT-242,COMPONENT-243,COMPONENT-244,
COMPONENT-245,COMPONENT-246,COMPONENT-247,COMPONENT-248,COMPONENT-249,COMPONENT-250,COMPONENT-251,
COMPONENT-252,COMPONENT-253,COMPONENT-254,COMPONENT-255,COMPONENT-256,COMPONENT-257,COMPONENT-258,
COMPONENT-259,COMPONENT-260,COMPONENT-261,COMPONENT-262,COMPONENT-263,COMPONENT-264,COMPONENT-265,
COMPONENT-266,COMPONENT-267,COMPONENT-268,COMPONENT-269,COMPONENT-270,COMPONENT-271,COMPONENT-272,
COMPONENT-273,COMPONENT-274,COMPONENT-275,COMPONENT-276,COMPONENT-277,COMPONENT-278,COMPONENT-279,
COMPONENT-280,COMPONENT-281,COMPONENT-282,COMPONENT-283,COMPONENT-284,COMPONENT-285,COMPONENT-286,
COMPONENT-287,COMPONENT-288,COMPONENT-289,COMPONENT-290,COMPONENT-291,COMPONENT-292,COMPONENT-293,
COMPONENT-294,COMPONENT-295,COMPONENT-296,COMPONENT-297,COMPONENT-298,COMPONENT-299,COMPONENT-300,
COMPONENT-301,COMPONENT-302,COMPONENT-303,COMPONENT-304,COMPONENT-305,COMPONENT-306,COMPONENT-307,
COMPONENT-308,COMPONENT-309,COMPONENT-310,COMPONENT-311,COMPONENT-312,COMPONENT-313,COMPONENT-314,
COMPONENT-315,COMPONENT-316,COMPONENT-317,COMPONENT-318,COMPONENT-319,COMPONENT-320,COMPONENT-321,
COMPONENT-322,COMPONENT-323,COMPONENT-324,COMPONENT-325,COMPONENT-326,COMPONENT-327,COMPONENT-328,
COMPONENT-329,COMPONENT-330,COMPONENT-331,COMPONENT-332,COMPONENT-333,COMPONENT-334,COMPONENT-335,
COMPONENT-336,COMPONENT-337,COMPONENT-338,COMPONENT-339,COMPONENT-340,COMPONENT-341,COMPONENT-342,
COMPONENT-343,COMPONENT-344,COMPONENT-345,COMPONENT-346,COMPONENT-347,COMPONENT-348,COMPONENT-349,
COMPONENT-350,COMPONENT-351,COMPONENT-352,COMPONENT-353,COMPONENT-354,COMPONENT-355,COMPONENT-356,
COMPONENT-357,COMPONENT-358,COMPONENT-359,COMPONENT-360,COMPONENT-361,COMPONENT-362,COMPONENT-363,
COMPONENT-364,COMPONENT-365,COMPONENT-366,COMPONENT-367,COMPONENT-368,COMPONENT-369,COMPONENT-370,
COMPONENT-371,COMPONENT-372,COMPONENT-373,COMPONENT-374,COMPONENT-375,COMPONENT-376,COMPONENT-377,
COMPONENT-378,COMPONENT-379,COMPONENT-380,COMPONENT-381,COMPONENT-382,COMPONENT-383,COMPONENT-384,
COMPONENT-385,COMPONENT-386,COMPONENT-387,COMPONENT-388,COMPONENT-389,COMPONENT-390,COMPONENT-391,
COMPONENT-392,COMPONENT-393,COMPONENT-394,COMPONENT-395,COMPONENT-396,COMPONENT-397,COMPONENT-398,
COMPONENT-399,COMPONENT-400,COMPONENT-401,COMPONENT-402,COMPONENT-403,COMPONENT-404,COMPONENT-405,
COMPONENT-406,COMPONENT-407,COMPONENT-408,COMPONENT-409,COMPONENT-410,COMPONENT-411,COMPONENT-412,
COMPONENT-413,COMPONENT-414,COMPONENT-415,COMPONENT-416,COMPONENT-417,COMPONENT-418,COMPONENT-419,
COMPONENT-420,COMPONENT-421,COMPONENT-422,COMPONENT-423,COMPONENT-424,COMPONENT-425,COMPONENT-426,
COMPONENT-427,COMPONENT-428,COMPONENT-429,COMPONENT-430,COMPONENT-431,COMPONENT-432,COMPONENT-433,
COMPONENT-434,COMPONENT-435,COMPONENT-436,COMPONENT-437,COMPONENT-438,COMPONENT-439,COMPONENT-440,
COMPONENT-441,COMPONENT-442,COMPONENT-443,COMPONENT-444,COMPONENT-445,COMPONENT-446,COMPONENT-447,
COMPONENT-448,COMPONENT-449,COMPONENT-450,COMPONENT-451,COMPONENT-452,COMPONENT-453,COMPONENT-454,
COMPONENT-455,COMPONENT-456,COMPONENT-457,COMPONENT-458,COMPONENT-459,COMPONENT-460,COMPONENT-461,
COMPONENT-462,COMPONENT-463,COMPONENT-464,COMPONENT-465,COMPONENT-466,COMPONENT-467,COMPONENT-468,
COMPONENT-469,COMPONENT-470,COMPONENT-471,COMPONENT-472,COMPONENT-473,COMPONENT-474,COMPONENT-475,
COMPONENT-476,COMPONENT-477,COMPONENT-478,COMPONENT-479,COMPONENT-480,COMPONENT-481,COMPONENT-482,
COMPONENT-483,COMPONENT-484,COMPONENT-485,COMPONENT-486,COMPONENT-487,COMPONENT-488,COMPONENT-489,
COMPONENT-490,COMPONENT-491,COMPONENT-492,COMPONENT-493,COMPONENT-494,COMPONENT-495,COMPONENT-496,
COMPONENT-497,COMPONENT-498,COMPONENT-499,COMPONENT-500,COMPONENT-501,COMPONENT-502,COMPONENT-503,
COMPONENT-504,COMPONENT-505,COMPONENT-506,COMPONENT-507,COMPONENT-508,COMPONENT-509,COMPONENT-510,
COMPONENT-511,COMPONENT-512,COMPONENT-513,COMPONENT-514,COMPONENT-515,COMPONENT-516,COMPONENT-517,
COMPONENT-518,COMPONENT-519,COMPONENT-520,COMPONENT-521,COMPONENT-522,COMPONENT-523,COMPONENT-524,
COMPONENT-525,COMPONENT-526,COMPONENT-527,COMPONENT-528,COMPONENT-529,COMPONENT-530,COMPONENT-531,
COMPONENT-532,COMPONENT-533,COMPONENT-534,COMPONENT-535,COMPONENT-536,COMPONENT-537,COMPONENT-538,
COMPONENT-539,COMPONENT-540,COMPONENT-541,COMPONENT-542,COMPONENT-543,COMPONENT-544,COMPONENT-545,
COMPONENT-546,COMPONENT-547,COMPONENT-548,COMPONENT-549,COMPONENT-550,COMPONENT-551,COMPONENT-552,
COMPONENT-553,COMPONENT-554,COMPONENT-555,COMPONENT-556,COMPONENT-557,COMPONENT-558,COMPONENT-559,
COMPONENT-560,COMPONENT-561,COMPONENT-562,COMPONENT-563,COMPONENT-564,COMPONENT-565,COMPONENT-566,
COMPONENT-567,COMPONENT-568,COMPONENT-569,COMPONENT-570,COMPONENT-571,COMPONENT-572,COMPONENT-573,
COMPONENT-574,COMPONENT-575,COMPONENT-576,COMPONENT-577,COMPONENT-578,COMPONENT-579,COMPONENT-580,
COMPONENT-581,COMPONENT-582,COMPONENT-583,COMPONENT-584,COMPONENT-585,COMPONENT-586,COMPONENT-587,
COMPONENT-588,COMPONENT-589,COMPONENT-590,COMPONENT-591,COMPONENT-592,COMPONENT-593,COMPONENT-594,
COMPONENT-595,COMPONENT-596,COMPONENT-597,COMPONENT-598,COMPONENT-599,COMPONENT-600,COMPONENT-601,
COMPONENT-602,COMPONENT-603,COMPONENT-604,COMPONENT-605,COMPONENT-606,COMPONENT-607,COMPONENT-608,
COMPONENT-609,COMPONENT-610,COMPONENT-611,COMPONENT-612,COMPONENT-613,COMPONENT-614,COMPONENT-615,
COMPONENT-616,COMPONENT-617,COMPONENT-618,COMPONENT-619,COMPONENT-620,COMPONENT-621,COMPONENT-622,
COMPONENT-623,COMPONENT-624,COMPONENT-625,COMPONENT-626,COMPONENT-627,COMPONENT-628,COMPONENT-629,
COMPONENT-630,COMPONENT-631,COMPONENT-632,COMPONENT-633,COMPONENT-634,COMPONENT-635,COMPONENT-636,
COMPONENT-637,COMPONENT-638,COMPONENT-639,COMPONENT-640,COMPONENT-641,COMPONENT-642,COMPONENT-643,
COMPONENT-644,COMPONENT-645,COMPONENT-646,COMPONENT-647,COMPONENT-648,COMPONENT-649,COMPONENT-650,
COMPONENT-651,COMPONENT-652,COMPONENT-653,COMPONENT-654,COMPONENT-655,COMPONENT-656,COMPONENT-657,
COMPONENT-658,COMPONENT-659,COMPONENT-660,COMPONENT-661,COMPONENT-662,COMPONENT-663,COMPONENT-664,
COMPONENT-665,COMPONENT-666,COMPONENT-667,COMPONENT-668,COMPONENT-669,COMPONENT-670,COMPONENT-671,
COMPONENT-672,COMPONENT-673,COMPONENT-674,COMPONENT-675,COMPONENT-676,COMPONENT-677,COMPONENT-678,
COMPONENT-679,COMPONENT-680,COMPONENT-681,COMPONENT-682,COMPONENT-683,COMPONENT-684,COMPONENT-685,
COMPONENT-686,COMPONENT-687,COMPONENT-688,COMPONENT-689,COMPONENT-690,COMPONENT-691,COMPONENT-692,
COMPONENT-693,COMPONENT-694,COMPONENT-695,COMPONENT-696,COMPONENT-697,COMPONENT-698,COMPONENT-699,
COMPONENT-700,COMPONENT-701,COMPONENT-702,COMPONENT-703,COMPONENT-704,COMPONENT-705,COMPONENT-706,
COMPONENT-707,COMPONENT-708,COMPONENT-709,COMPONENT-710,COMPONENT-711,COMPONENT-712,COMPONENT-713,
COMPONENT-714,COMPONENT-715,COMPONENT-716,COMPONENT-717,COMPONENT-718,COMPONENT-719,COMPONENT-720,
COMPONENT-721,COMPONENT-722,COMPONENT-723,COMPONENT-724,COMPONENT-725,COMPONENT-726,COMPONENT-727,
COMPONENT-728,COMPONENT-729,COMPONENT-730,COMPONENT-731,COMPONENT-732,COMPONENT-733,COMPONENT-734,
COMPONENT-735,COMPONENT-736,COMPONENT-737,COMPONENT-738,COMPONENT-739,COMPONENT-740,COMPONENT-741,
COMPONENT-742,COMPONENT-743,COMPONENT-744,COMPONENT-745,COMPONENT-746,COMPONENT-747,COMPONENT-748,
COMPONENT-749,COMPONENT-750,COMPONENT-751,COMPONENT-752,COMPONENT-753,COMPONENT-754,COMPONENT-755,
COMPONENT-756,COMPONENT-757,COMPONENT-758,COMPONENT-759,COMPONENT-760,COMPONENT-761,COMPONENT-762,
COMPONENT-763,COMPONENT-764,COMPONENT-765,COMPONENT-766,COMPONENT-767,COMPONENT-768;
TANGUT ITERATION=MARK;TAPE=CARTRIDGE,DRIVE;TEACUP WITHOUT=HANDLE;TEAR-OFF=CALENDAR;
TEARDROP-BARBED RIGHTWARDS=ARROW;TEARDROP-SPOKED=ASTERISK;TEDDY=BEAR;TELEPHONE=RECEIVER,RECORDER,
SIGN;TELEPHONE LOCATION=SIGN;TELEPHONE ON TOP OF=MODEM;TELEPHONE RECEIVER WITH=PAGE;
TELUGU AI LENGTH=MARK;TELUGU DIGIT=EIGHT,FIVE,FOUR,NINE,ONE,SEVEN,SIX,THREE,TWO,ZERO;
TELUGU FRACTION DIGIT ONE FOR EVEN POWERS OF=FOUR;TELUGU FRACTION DIGIT ONE FOR ODD POWERS OF=FOUR;
TELUGU FRACTION DIGIT THREE FOR EVEN POWERS OF=FOUR;
TELUGU FRACTION DIGIT THREE FOR ODD POWERS OF=FOUR;
TELUGU FRACTION DIGIT TWO FOR EVEN POWERS OF=FOUR;TELUGU FRACTION DIGIT TWO FOR ODD POWERS OF=FOUR;
TELUGU FRACTION DIGIT ZERO FOR ODD POWERS OF=FOUR;TELUGU LENGTH=MARK;TELUGU LETTER=A,AA,AI,AU,BA,
BHA,CA,CHA,DA,DDA,DDHA,DHA,DZA,E,EE,GA,GHA,HA,I,II,JA,JHA,KA,KHA,LA,LLA,LLLA,MA,NA,NGA,NNA,NYA,O,
OO,PA,PHA,RA,RRA,RRRA,SA,SHA,SSA,TA,THA,TSA,TTA,TTHA,U,UU,VA,YA;TELUGU LETTER NAKAARA=POLLU;
TELUGU LETTER VOCALIC=L,LL,R,RR;TELUGU SIGN=ANUSVARA,AVAGRAHA,CANDRABINDU,NUKTA,SIDDHAM,TUUMU,
VIRAMA,VISARGA;TELUGU SIGN COMBINING ANUSVARA=ABOVE;TELUGU SIGN COMBINING CANDRABINDU=ABOVE;
TELUGU VOWEL SIGN=AA,AI,AU,E,EE,I,II,O,OO,U,UU;TELUGU VOWEL SIGN VOCALIC=L,LL,R,RR;TENGE=SIGN;
TENNIS RACQUET AND=BALL;TEST=TUBE;TETRAGRAM FOR=ACCUMULATION,ADVANCE,AGGRAVATION,ASCENT,BARRIER,
CENTRE,CHANGE,CLOSENESS,CLOSURE,COMPLETION,COMPLIANCE,CONSTANCY,CONTACT,CONTENTION,CONTRARIETY,
DARKENING,DECISIVENESS,DEPARTURE,DIFFICULTIES,DIMINISHMENT,DIMMING,DIVERGENCE,DOUBT,DUTIES,EASE,
EMBELLISHMENT,ENCOUNTERS,ENDEAVOUR,ENLARGEMENT,ETERNITY,EXHAUSTION,FAILURE,FLIGHT,FOLLOWING,
FOSTERING,FULLNESS,GATHERING,GREATNESS,GUARDEDNESS,HARDNESS,INCREASE,INNER,JOY,KINSHIP,LABOURING,
LEGION,MASSING,MEASURE,MIRED,OPPOSITION,PACKING,PATTERN,PENETRATION,PURITY,REACH,RELEASE,RESIDENCE,
RESISTANCE,RESPONSE,RITUAL,SEVERANCE,SINKING,STOPPAGE,STOVE,STRENGTH,UNITY,WAITING,WATCH,
YOUTHFULNESS;TETRAGRAM FOR BOLD=RESOLUTION;TETRAGRAM FOR BRANCHING=OUT;TETRAGRAM FOR CLOSED=MOUTH;
TETRAGRAM FOR DEFECTIVENESS OR=DISTORTION;TETRAGRAM FOR FULL=CIRCLE;TETRAGRAM FOR GATHERING=IN;
TETRAGRAM FOR GOING TO=MEET;TETRAGRAM FOR HOLDING=BACK;TETRAGRAM FOR KEEPING=SMALL;
TETRAGRAM FOR LAW OR=MODEL;TETRAGRAM FOR ON THE=VERGE;TETRAGRAM FOR VASTNESS OR=WASTING;
THAANA=AABAAFILI,ABAFILI,EBEFILI,EEBEEFILI,EYBEYFILI,IBIFILI,OABOAFILI,OBOFILI,OOBOOFILI,SUKUN,
UBUFILI;THAANA LETTER=AINU,ALIFU,BAA,CHAVIYANI,DAADHU,DAVIYANI,DHAALU,FAAFU,GAAFU,GHAINU,GNAVIYANI,
HAA,HHAA,JAVIYANI,KAAFU,KHAA,LAAMU,LHAVIYANI,MEEMU,NAA,NOONU,PAVIYANI,QAAFU,RAA,SAADHU,SEENU,
SHAVIYANI,SHEENU,TAVIYANI,THAA,THAALU,TO,TTAA,VAAVU,WAAVU,YAA,ZAA,ZAVIYANI,ZO;
THAI CHARACTER=ANGKHANKHU,FONGMAN,KHOMUT,LAKKHANGYAO,LU,MAITAIKHU,MAIYAMOK,NIKHAHIT,PAIYANNOI,
PHINTHU,RU,THANTHAKHAT,YAMAKKAN;THAI CHARACTER BO=BAIMAI;THAI CHARACTER CHO=CHAN,CHANG,CHING,CHOE;
THAI CHARACTER DO=CHADA,DEK;THAI CHARACTER FO=FA,FAN;THAI CHARACTER HO=HIP,NOKHUK;
THAI CHARACTER KHO=KHAI,KHON,KHUAT,KHWAI,RAKHANG;THAI CHARACTER KO=KAI;THAI CHARACTER LO=CHULA,
LING;THAI CHARACTER MAI=CHATTAWA,EK,HAN-AKAT,THO,TRI;THAI CHARACTER MO=MA;THAI CHARACTER NGO=NGU;
THAI CHARACTER NO=NEN,NU;THAI CHARACTER O=ANG;THAI CHARACTER PHO=PHAN,PHUNG,SAMPHAO;
THAI CHARACTER PO=PLA;THAI CHARACTER RO=RUA;THAI CHARACTER SARA=A,AA,AE,AM,E,I,II,O,U,UE,UEE,UU;
THAI CHARACTER SARA AI=MAIMALAI,MAIMUAN;THAI CHARACTER SO=RUSI,SALA,SO,SUA;
THAI CHARACTER THO=NANGMONTHO,PHUTHAO,THAHAN,THAN,THONG,THUNG;THAI CHARACTER TO=PATAK,TAO;
THAI CHARACTER WO=WAEN;THAI CHARACTER YO=YAK,YING;THAI CURRENCY SYMBOL=BAHT;THAI DIGIT=EIGHT,FIVE,
FOUR,NINE,ONE,SEVEN,SIX,THREE,TWO,ZERO;THERE=EXISTS;THERE DOES NOT=EXIST;THIN=SALTIRE,SPACE;
THIN GREEK=CROSS;THINKING=FACE;THIRD PLACE=MEDAL;THONG=SANDAL;THOUGHT=BALLOON;THREE BUTTON=MOUSE;
THREE CONSECUTIVE EQUALS=SIGNS;THREE DIMENSIONAL=ANGLE;THREE DOT=PUNCTUATION;
THREE LEFTWARDS=ARROWS;THREE LINES CONVERGING=LEFT,RIGHT;THREE NETWORKED=COMPUTERS;
THREE POINTED BLACK=STAR;THREE RAYS=ABOVE,BELOW,LEFT,RIGHT;THREE RIGHTWARDS=ARROWS;
THREE SPEECH=BUBBLES;THREE-D BOTTOM-LIGHTED RIGHTWARDS=ARROWHEAD;
THREE-D LEFT-LIGHTED DOWNWARDS EQUILATERAL=ARROWHEAD;
THREE-D RIGHT-LIGHTED UPWARDS EQUILATERAL=ARROWHEAD;
THREE-D TOP-LIGHTED LEFTWARDS EQUILATERAL=ARROWHEAD;THREE-D TOP-LIGHTED RIGHTWARDS=ARROWHEAD;
THREE-D TOP-LIGHTED RIGHTWARDS EQUILATERAL=ARROWHEAD;THREE-EM=DASH;THREE-PER-EM=SPACE;
THUMBS DOWN=SIGN;THUMBS UP=SIGN;THUNDER CLOUD AND=RAIN;TIBETAN ASTROLOGICAL SIGN -KHYUD=PA;
TIBETAN ASTROLOGICAL SIGN SDONG=TSHUGS;TIBETAN ASTROLOGICAL SIGN SGRA GCAN -CHAR=RTAGS;
TIBETAN CANTILLATION SIGN CANG=TE-U;TIBETAN CANTILLATION SIGN HEAVY=BEAT;
TIBETAN CANTILLATION SIGN LIGHT=BEAT;TIBETAN CANTILLATION SIGN SBUB=-CHAL;TIBETAN DIGIT=EIGHT,FIVE,
FOUR,NINE,ONE,SEVEN,SIX,THREE,TWO,ZERO;TIBETAN DIGIT HALF=EIGHT,FIVE,FOUR,NINE,ONE,SEVEN,SIX,THREE,
TWO,ZERO;TIBETAN KU RU=KHA;TIBETAN KU RU KHA BZHI MIG=CAN;TIBETAN LETTER=-A,A,BA,BHA,CA,CHA,DA,DDA,
DDHA,DHA,DZA,DZHA,GA,GHA,HA,JA,KA,KHA,KKA,KSSA,LA,MA,NA,NGA,NNA,NYA,PA,PHA,RA,RRA,SA,SHA,SSA,TA,
THA,TSA,TSHA,TTA,TTHA,WA,YA,ZA,ZHA;TIBETAN LETTER FIXED-FORM=RA;TIBETAN LOGOTYPE SIGN CHAD=RTAGS;
TIBETAN LOGOTYPE SIGN LHAG=RTAGS;TIBETAN MARK=HALANTA,PALUTA,SHAD;TIBETAN MARK ANG KHANG=GYAS,GYON;
TIBETAN MARK BKA- SHOG GI MGO=RGYAN;TIBETAN MARK BKA- SHOG YIG=MGO;TIBETAN MARK BSDUS=RTAGS;
TIBETAN MARK BSKA- SHOG GI MGO=RGYAN;TIBETAN MARK BSKUR YIG=MGO;
TIBETAN MARK CARET -DZUD RTAGS BZHI MIG=CAN;TIBETAN MARK CARET -DZUD RTAGS ME LONG=CAN;
TIBETAN MARK CARET YIG MGO PHUR SHAD=MA;TIBETAN MARK CHE=MGO;
TIBETAN MARK CLOSING BRDA RNYING YIG MGO SGAB=MA;TIBETAN MARK CLOSING YIG MGO SGAB=MA;
TIBETAN MARK DELIMITER TSHEG=BSTAR;TIBETAN MARK GTER=TSHEG;
TIBETAN MARK GTER YIG MGO -UM GTER TSHEG=MA;TIBETAN MARK GTER YIG MGO -UM RNAM BCAD=MA;
TIBETAN MARK GTER YIG MGO TRUNCATED=A;TIBETAN MARK GUG RTAGS=GYAS,GYON;
TIBETAN MARK INITIAL BRDA RNYING YIG MGO MDUN=MA;TIBETAN MARK INITIAL YIG MGO MDUN=MA;
TIBETAN MARK INTERSYLLABIC=TSHEG;TIBETAN MARK LEADING MCHAN=RTAGS;
TIBETAN MARK MNYAM YIG GI MGO=RGYAN;TIBETAN MARK NGAS BZUNG NYI=ZLA;
TIBETAN MARK NGAS BZUNG SGOR=RTAGS;TIBETAN MARK NYIS=SHAD,TSHEG;TIBETAN MARK NYIS TSHEG=SHAD;
TIBETAN MARK RGYA GRAM=SHAD;TIBETAN MARK RIN CHEN SPUNGS=SHAD;TIBETAN MARK SBRUL=SHAD;
TIBETAN MARK TRAILING MCHAN=RTAGS;TIBETAN MARK TSA=-PHRU;TIBETAN MARK TSHEG=SHAD;
TIBETAN MARK YIG MGO TSHEG SHAD=MA;TIBETAN SIGN GRU CAN=RGYINGS;TIBETAN SIGN GRU MED=RGYINGS;
TIBETAN SIGN INVERTED MCHU=CAN;TIBETAN SIGN LCE TSA=CAN;TIBETAN SIGN LCI=RTAGS;
TIBETAN SIGN MAR=TSHES;TIBETAN SIGN MCHU=CAN;TIBETAN SIGN NYI ZLA NAA=DA;
TIBETAN SIGN RDEL DKAR=GCIG,GNYIS,GSUM;TIBETAN SIGN RDEL DKAR RDEL=NAG;TIBETAN SIGN RDEL NAG=GCIG,
GNYIS,GSUM;TIBETAN SIGN RDEL NAG RDEL=DKAR;TIBETAN SIGN RJES SU NGA=RO;TIBETAN SIGN RNAM=BCAD;
TIBETAN SIGN SNA=LDAN;TIBETAN SIGN YANG=RTAGS;TIBETAN SIGN YAR=TSHES;TIBETAN SUBJOINED LETTER=-A,A,
BA,BHA,CA,CHA,DA,DDA,DDHA,DHA,DZA,DZHA,GA,GHA,HA,JA,KA,KHA,KSSA,LA,MA,NA,NGA,NNA,NYA,PA,PHA,RA,SA,
SHA,SSA,TA,THA,TSA,TSHA,TTA,TTHA,WA,YA,ZA,ZHA;TIBETAN SUBJOINED LETTER FIXED-FORM=RA,WA,YA;
TIBETAN SUBJOINED SIGN INVERTED MCHU=CAN;TIBETAN SUBJOINED SIGN LCE TSA=CAN;
TIBETAN SUBJOINED SIGN MCHU=CAN;TIBETAN SYLLABLE=OM;TIBETAN SYMBOL DRIL=BU;TIBETAN SYMBOL NOR=BU;
TIBETAN SYMBOL NOR BU BZHI=-KHYIL;TIBETAN SYMBOL NOR BU GSUM=-KHYIL;
TIBETAN SYMBOL NOR BU NYIS=-KHYIL;TIBETAN SYMBOL PADMA=GDAN;TIBETAN SYMBOL PHUR=PA;
TIBETAN SYMBOL RDO=RJE;TIBETAN SYMBOL RDO RJE RGYA=GRAM;TIBETAN VOWEL SIGN=AA,E,EE,I,II,O,OO,U,UU;
TIBETAN VOWEL SIGN REVERSED=I,II;TIBETAN VOWEL SIGN VOCALIC=L,LL,R,RR;TIE OVER=INFINITY;
TIFINAGH CONSONANT=JOINER;TIFINAGH LETTER=YA,YAA,YAB,YABH,YACH,YAD,YADD,YADDH,YADH,YAF,YAG,YAGH,
YAGHH,YAH,YAHH,YAJ,YAK,YAKH,YAKHH,YAL,YAM,YAN,YAP,YAQ,YAR,YARR,YAS,YASH,YASS,YAT,YATH,YATT,YAV,YAW,
YAY,YAZ,YAZH,YAZZ,YE,YEY,YI,YO,YU;TIFINAGH LETTER AHAGGAR=YAZH;TIFINAGH LETTER AYER=YAGH;
TIFINAGH LETTER BERBER ACADEMY=YAH,YAJ;TIFINAGH LETTER TAWELLEMET=YAZ;TIFINAGH LETTER TUAREG=YAGH,
YAGN,YAH,YAK,YAKH,YANG,YAQ,YAZH;TIFINAGH MODIFIER LETTER LABIALIZATION=MARK;
TIFINAGH SEPARATOR=MARK;TIGER=FACE;TIGHT TRIFOLIATE=SNOWFLAKE;TILDE=OPERATOR;
TILDE OPERATOR ABOVE LEFTWARDS=ARROW;TILDE OPERATOR ABOVE RIGHTWARDS=ARROW;
TILDE OPERATOR WITH DOT=ABOVE;TILDE OPERATOR WITH RISING=DOTS;TILDE WITH DOT=ABOVE,BELOW;
TILDE WITH RING=ABOVE;TIMER=CLOCK;TIMES WITH LEFT HALF=BLACK;TIMES WITH RIGHT HALF=BLACK;
TINY TWO DOTS OVER ONE DOT=PUNCTUATION;TIRED=FACE;TIRHUTA=ANJI,GVANG,OM;TIRHUTA ABBREVIATION=SIGN;
TIRHUTA DIGIT=EIGHT,FIVE,FOUR,NINE,ONE,SEVEN,SIX,THREE,TWO,ZERO;TIRHUTA LETTER=A,AA,AI,AU,BA,BHA,
CA,CHA,DA,DDA,DDHA,DHA,E,GA,GHA,HA,I,II,JA,JHA,KA,KHA,LA,MA,NA,NGA,NNA,NYA,O,PA,PHA,RA,SA,SHA,SSA,
TA,THA,TTA,TTHA,U,UU,VA,YA;TIRHUTA LETTER VOCALIC=L,LL,R,RR;TIRHUTA SIGN=ANUSVARA,AVAGRAHA,
CANDRABINDU,NUKTA,VIRAMA,VISARGA;TIRHUTA VOWEL SIGN=AA,AI,AU,E,I,II,O,U,UU;
TIRHUTA VOWEL SIGN SHORT=E,O;TIRHUTA VOWEL SIGN VOCALIC=L,LL,R,RR;TIRONIAN SIGN=ET;
TIRONIAN SIGN CAPITAL=ET;TOKYO=TOWER;TOP=HAT,PARENTHESIS;TOP ARC ANTICLOCKWISE=ARROW;
TOP ARC ANTICLOCKWISE ARROW WITH=PLUS;TOP ARC CLOCKWISE ARROW WITH=MINUS;TOP CURLY=BRACKET;
TOP HALF=INTEGRAL;TOP HALF BLACK=CIRCLE;TOP HALF LEFT=PARENTHESIS;TOP HALF RIGHT=PARENTHESIS;
TOP HALF SECTION=SIGN;TOP LEFT=CORNER,CROP;TOP LEFT HALF=BRACKET;TOP RIGHT=CORNER,CROP;
TOP RIGHT HALF=BRACKET;TOP SQUARE=BRACKET;TOP TORTOISE SHELL=BRACKET;TOP WITH UPWARDS ARROW=ABOVE;
TORTOISE SHELL BRACKETED CJK UNIFIED=IDEOGRAPH-4E09,IDEOGRAPH-4E8C,IDEOGRAPH-52DD,IDEOGRAPH-5B89,
IDEOGRAPH-6253,IDEOGRAPH-6557,IDEOGRAPH-672C,IDEOGRAPH-70B9,IDEOGRAPH-76D7;
TORTOISE SHELL BRACKETED LATIN CAPITAL LETTER=S;TOTAL=RUNOUT;TOTO LETTER=A,AE,BA,CHA,DA,E,EO,GA,HA,
I,IU,JA,KA,LA,MA,NA,NGA,O,PA,RA,SA,TA,U,WA,YA;TOTO LETTER BREATHY=AE,E,EO,I,IU;
TOTO SIGN RISING=TONE;TRADE MARK=SIGN;TRAM=CAR;TRANSVERSAL=INTERSECTION;TRIANGLE WITH=UNDERBAR;
TRIANGLE WITH DOT=ABOVE;TRIANGLE WITH ROUNDED=CORNERS;TRIANGLE WITH SERIFS AT=BOTTOM;
TRIANGLE-HEADED RIGHTWARDS=ARROW;TRIANGULAR=BULLET,RULER;TRIANGULAR FLAG ON=POST;TRIDENT=EMBLEM;
TRIGRAM FOR=EARTH,FIRE,HEAVEN,LAKE,MOUNTAIN,THUNDER,WATER,WIND;TRIPLE=DAGGER,INTEGRAL,PLUS,PRIME,
TILDE;TRIPLE COLON=OPERATOR;TRIPLE HORIZONTAL BAR WITH DOUBLE VERTICAL=STROKE;
TRIPLE HORIZONTAL BAR WITH TRIPLE VERTICAL=STROKE;TRIPLE NESTED=GREATER-THAN,LESS-THAN;
TRIPLE SOLIDUS BINARY=RELATION;TRIPLE VERTICAL BAR=DELIMITER;TRIPLE VERTICAL BAR BINARY=RELATION;
TRIPLE VERTICAL BAR RIGHT=TURNSTILE;TRIPLE VERTICAL BAR WITH HORIZONTAL=STROKE;TROPICAL=DRINK,FISH;
TRUE LIGHT MOON=ARTA;TUGRIK=SIGN;TUMBLER=GLASS;TURKISH LIRA=SIGN;TURNED=AMPERSAND,ANGLE,COMMA,
DAGGER,SEMICOLON;TURNED BLACK=PENTAGON;TURNED BLACK SHOGI=PIECE;TURNED CAPITAL=F;
TURNED DIGIT=THREE,TWO;TURNED GREEK SMALL LETTER=IOTA;TURNED NORTH EAST POINTING=LEAF;
TURNED NORTH WEST POINTING=LEAF;TURNED NOT=SIGN;TURNED OK HAND=SIGN;TURNED SANS-SERIF CAPITAL=G,L,
Y;TURNED SMALL=F;TURNED SOUTH EAST POINTING=LEAF;TURNED SOUTH WEST POINTING=LEAF;
TURNED WHITE SHOGI=PIECE;TWELVE POINTED BLACK=STAR;TWISTED RIGHTWARDS=ARROWS;TWO=HEARTS;
TWO ASTERISKS ALIGNED=VERTICALLY;TWO BUTTON=MOUSE;TWO CONSECUTIVE EQUALS=SIGNS;TWO DOT=LEADER,
PUNCTUATION;TWO DOTS OVER ONE DOT=PUNCTUATION;TWO INTERSECTING LOGICAL=AND,OR;TWO JOINED=SQUARES;
TWO LOGICAL AND=OPERATOR;TWO LOGICAL OR=OPERATOR;TWO MEN HOLDING=HANDS;TWO SPEECH=BUBBLES;
TWO WOMEN HOLDING=HANDS;TWO-EM=DASH;UGARITIC LETTER=AIN,ALPA,BETA,DELTA,DHAL,GAMLA,GHAIN,HO,HOTA,I,
KAF,KHA,LAMDA,MEM,NUN,PU,QOPA,RASHA,SADE,SAMKA,SHIN,SSU,TET,THANNA,TO,U,WO,YOD,ZETA,ZU;
UGARITIC WORD=DIVIDER;UMBRELLA ON=GROUND;UMBRELLA WITH RAIN=DROPS;UNAMUSED=FACE;UNCERTAINTY=SIGN;
UNDO=SYMBOL;UNICORN=FACE;UNION ABOVE=INTERSECTION;UNION ABOVE BAR ABOVE=INTERSECTION;
UNION BESIDE AND JOINED WITH=UNION;UNION WITH=OVERBAR;UNION WITH LOGICAL=OR;UNION WITH MINUS=SIGN;
UNIT=SEPARATOR;UNITED=SYMBOL;UNIVERSAL RECYCLING=SYMBOL;UNMARRIED PARTNERSHIP=SYMBOL;UP=ARROWHEAD,
TACK;UP ARROW THROUGH=CIRCLE;UP ARROWHEAD BETWEEN TWO HORIZONTAL=BARS;
UP ARROWHEAD IN A RECTANGLE=BOX;UP BARB LEFT DOWN BARB LEFT=HARPOON;
UP BARB LEFT DOWN BARB RIGHT=HARPOON;UP BARB RIGHT DOWN BARB LEFT=HARPOON;
UP BARB RIGHT DOWN BARB RIGHT=HARPOON;UP DOWN=ARROW;UP DOWN ARROW WITH=BASE;UP DOWN BLACK=ARROW;
UP DOWN DOUBLE=ARROW;UP DOWN SANS-SERIF=ARROW;UP DOWN TRIANGLE-HEADED=ARROW;UP DOWN WHITE=ARROW;
UP FISH=TAIL;UP RIGHT DIAGONAL=ELLIPSIS;UP TACK WITH CIRCLE=ABOVE;UP-POINTING=AIRPLANE;
UP-POINTING MILITARY=AIRPLANE;UP-POINTING RED=TRIANGLE;UP-POINTING SMALL=AIRPLANE;
UP-POINTING SMALL RED=TRIANGLE;UP-POINTING TRIANGLE WITH LEFT HALF=BLACK;
UP-POINTING TRIANGLE WITH RIGHT HALF=BLACK;
UPPER AND LEFT AND LOWER TRIANGULAR THREE QUARTERS=BLOCK;UPPER AND LOWER ONE EIGHTH=BLOCK;
UPPER AND LOWER TRIANGULAR HALF=BLOCK;UPPER AND RIGHT AND LOWER TRIANGULAR THREE QUARTERS=BLOCK;
UPPER BLADE=SCISSORS;UPPER FIVE EIGHTHS=BLOCK;UPPER HALF=BLOCK,CIRCLE;
UPPER HALF BLOCK AND LOWER HALF INVERSE MEDIUM=SHADE;
UPPER HALF INVERSE MEDIUM SHADE AND LOWER HALF=BLOCK;UPPER HALF INVERSE WHITE=CIRCLE;
UPPER HALF MEDIUM=SHADE;UPPER LEFT=TRIANGLE;
UPPER LEFT BLOCK DIAGONAL LOWER CENTRE TO LOWER MIDDLE=RIGHT;
UPPER LEFT BLOCK DIAGONAL LOWER CENTRE TO UPPER=RIGHT;
UPPER LEFT BLOCK DIAGONAL LOWER CENTRE TO UPPER MIDDLE=RIGHT;
UPPER LEFT BLOCK DIAGONAL LOWER LEFT TO LOWER MIDDLE=RIGHT;
UPPER LEFT BLOCK DIAGONAL LOWER LEFT TO UPPER=CENTRE;
UPPER LEFT BLOCK DIAGONAL LOWER LEFT TO UPPER MIDDLE=RIGHT;
UPPER LEFT BLOCK DIAGONAL LOWER MIDDLE LEFT TO UPPER=CENTRE,RIGHT;
UPPER LEFT BLOCK DIAGONAL LOWER MIDDLE LEFT TO UPPER MIDDLE=RIGHT;
UPPER LEFT BLOCK DIAGONAL UPPER MIDDLE LEFT TO UPPER=CENTRE,RIGHT;UPPER LEFT CORNER WITH=DOT;
UPPER LEFT OR LOWER RIGHT CURLY BRACKET=SECTION;UPPER LEFT QUADRANT CIRCULAR=ARC;
UPPER LEFT TO LOWER RIGHT=FILL;UPPER LEFT TRIANGULAR MEDIUM=SHADE;UPPER ONE EIGHTH=BLOCK;
UPPER ONE QUARTER=BLOCK;UPPER RIGHT=PENCIL,TRIANGLE;
UPPER RIGHT BLOCK DIAGONAL LOWER MIDDLE LEFT TO LOWER=CENTRE,RIGHT;
UPPER RIGHT BLOCK DIAGONAL UPPER CENTRE TO LOWER=RIGHT;
UPPER RIGHT BLOCK DIAGONAL UPPER CENTRE TO LOWER MIDDLE=RIGHT;
UPPER RIGHT BLOCK DIAGONAL UPPER CENTRE TO UPPER MIDDLE=RIGHT;
UPPER RIGHT BLOCK DIAGONAL UPPER LEFT TO LOWER=CENTRE;
UPPER RIGHT BLOCK DIAGONAL UPPER LEFT TO LOWER MIDDLE=RIGHT;
UPPER RIGHT BLOCK DIAGONAL UPPER LEFT TO UPPER MIDDLE=RIGHT;
UPPER RIGHT BLOCK DIAGONAL UPPER MIDDLE LEFT TO LOWER=CENTRE,RIGHT;
UPPER RIGHT BLOCK DIAGONAL UPPER MIDDLE LEFT TO LOWER MIDDLE=RIGHT;
UPPER RIGHT DROP-SHADOWED WHITE=SQUARE;UPPER RIGHT OR LOWER LEFT CURLY BRACKET=SECTION;
UPPER RIGHT QUADRANT CIRCULAR=ARC;UPPER RIGHT SHADOWED WHITE=CIRCLE,SQUARE;
UPPER RIGHT TO LOWER LEFT=FILL;UPPER RIGHT TRIANGULAR MEDIUM=SHADE;UPPER SEVEN EIGHTHS=BLOCK;
UPPER THREE EIGHTHS=BLOCK;UPPER THREE QUARTERS=BLOCK;UPPER TRIANGULAR ONE QUARTER=BLOCK;
UPSIDE-DOWN=FACE;UPWARDS=ANCORA,ARROW,ROCKET;UPWARDS ARROW AND RIGHT ONE EIGHTH=BLOCK;
UPWARDS ARROW FROM=BAR;UPWARDS ARROW LEFTWARDS OF DOWNWARDS=ARROW;UPWARDS ARROW TO=BAR;
UPWARDS ARROW WITH DOUBLE=STROKE;UPWARDS ARROW WITH EQUILATERAL=ARROWHEAD;
UPWARDS ARROW WITH HORIZONTAL=STROKE;UPWARDS ARROW WITH LARGE TRIANGLE=ARROWHEAD;
UPWARDS ARROW WITH MEDIUM TRIANGLE=ARROWHEAD;UPWARDS ARROW WITH NOTCHED=TAIL;
UPWARDS ARROW WITH SMALL EQUILATERAL=ARROWHEAD;UPWARDS ARROW WITH SMALL TRIANGLE=ARROWHEAD;
UPWARDS ARROW WITH TIP=LEFTWARDS,RIGHTWARDS;UPWARDS BLACK=ARROW;UPWARDS BLACK CIRCLED WHITE=ARROW;
UPWARDS COMPRESSED=ARROW;UPWARDS DASHED=ARROW;UPWARDS DOUBLE=ARROW;UPWARDS FINGER-POST=ARROW;
UPWARDS HARPOON WITH BARB=LEFTWARDS,RIGHTWARDS;
UPWARDS HARPOON WITH BARB LEFT BESIDE DOWNWARDS HARPOON WITH BARB=RIGHT;
UPWARDS HARPOON WITH BARB LEFT BESIDE UPWARDS HARPOON WITH BARB=RIGHT;
UPWARDS HARPOON WITH BARB LEFT FROM=BAR;UPWARDS HARPOON WITH BARB LEFT TO=BAR;
UPWARDS HARPOON WITH BARB RIGHT FROM=BAR;UPWARDS HARPOON WITH BARB RIGHT TO=BAR;
UPWARDS HEAVY=ARROW;UPWARDS HEAVY COMPRESSED=ARROW;UPWARDS PAIRED=ARROWS;UPWARDS QUADRUPLE=ARROW;
UPWARDS SANS-SERIF=ARROW;UPWARDS SQUARED=ARROW;UPWARDS TRIANGLE=ARROWHEAD;
UPWARDS TRIANGLE-HEADED=ARROW;
UPWARDS TRIANGLE-HEADED ARROW LEFTWARDS OF DOWNWARDS TRIANGLE-HEADED=ARROW;
UPWARDS TRIANGLE-HEADED ARROW TO=BAR;UPWARDS TRIANGLE-HEADED ARROW WITH BOLD=SHAFT;
UPWARDS TRIANGLE-HEADED ARROW WITH DOUBLE HORIZONTAL=STROKE;
UPWARDS TRIANGLE-HEADED ARROW WITH HEAVY=SHAFT;
UPWARDS TRIANGLE-HEADED ARROW WITH LONG TIP=LEFTWARDS,RIGHTWARDS;
UPWARDS TRIANGLE-HEADED ARROW WITH MEDIUM=SHAFT;UPWARDS TRIANGLE-HEADED ARROW WITH NARROW=SHAFT;
UPWARDS TRIANGLE-HEADED ARROW WITH VERY HEAVY=SHAFT;UPWARDS TRIANGLE-HEADED DASHED=ARROW;
UPWARDS TRIANGLE-HEADED PAIRED=ARROWS;UPWARDS TRIPLE=ARROW;UPWARDS TWO HEADED=ARROW;
UPWARDS TWO-HEADED ARROW FROM SMALL=CIRCLE;UPWARDS TWO-HEADED ARROW WITH TRIANGLE=ARROWHEADS;
UPWARDS WHITE=ARROW;UPWARDS WHITE ARROW FROM=BAR;UPWARDS WHITE ARROW FROM BAR WITH HORIZONTAL=BAR;
UPWARDS WHITE ARROW ON=PEDESTAL;UPWARDS WHITE ARROW ON PEDESTAL WITH HORIZONTAL=BAR;
UPWARDS WHITE ARROW ON PEDESTAL WITH VERTICAL=BAR;UPWARDS WHITE ARROW WITHIN TRIANGLE=ARROWHEAD;
UPWARDS WHITE DOUBLE=ARROW;UPWARDS WHITE DOUBLE ARROW ON=PEDESTAL;VAI=COMMA;VAI DIGIT=EIGHT,FIVE,
FOUR,NINE,ONE,SEVEN,SIX,THREE,TWO,ZERO;VAI FULL=STOP;VAI QUESTION=MARK;VAI SYLLABLE=A,AN,BA,BE,BEE,
BHA,BHE,BHEE,BHI,BHO,BHOO,BHU,BI,BO,BOO,BU,CA,CE,CEE,CI,CO,COO,CU,DA,DE,DEE,DHA,DHE,DHEE,DHHA,DHHE,
DHHEE,DHHI,DHHO,DHHOO,DHHU,DHI,DHO,DHOO,DHU,DI,DO,DOO,DU,E,EE,EEN,EN,FA,FE,FEE,FI,FO,FOO,FU,GA,GBA,
GBE,GBEE,GBEN,GBI,GBO,GBON,GBOO,GBU,GE,GEE,GEN,GI,GO,GOO,GU,HA,HAN,HE,HEE,HEN,HI,HIN,HO,HON,HOO,HU,
HUN,I,IN,JA,JE,JEE,JI,JO,JOO,JU,KA,KAN,KE,KEE,KI,KO,KOO,KPA,KPAN,KPE,KPEE,KPEN,KPI,KPO,KPOO,KPU,KU,
LA,LE,LEE,LENGTHENER,LI,LO,LOO,LU,MA,MBA,MBE,MBEE,MBI,MBO,MBOO,MBU,ME,MEE,MGBA,MGBE,MGBEE,MGBI,
MGBO,MGBOO,MGBU,MI,MO,MOO,MU,NA,NDA,NDE,NDEE,NDI,NDO,NDOO,NDU,NE,NEE,NG,NGAN,NGEN,NGGA,NGGE,NGGEE,
NGGEN,NGGI,NGGO,NGGOO,NGGU,NGON,NI,NJA,NJE,NJEE,NJI,NJO,NJOO,NJU,NO,NOO,NU,NYA,NYE,NYEE,NYI,NYO,
NYOO,NYU,O,ON,OO,OON,PA,PE,PEE,PI,PO,POO,PU,RA,RE,REE,RI,RO,ROO,RU,SA,SE,SEE,SHA,SHE,SHEE,SHI,SHO,
SHOO,SHU,SI,SO,SOO,SU,TA,TE,TEE,THA,THE,THEE,THI,THO,THOO,THU,TI,TO,TOO,TU,U,UN,VA,VE,VEE,VI,VO,
VOO,VU,WA,WAN,WE,WEE,WEEN,WEN,WI,WIN,WO,WON,WOO,WOON,WU,WUN,YA,YE,YEE,YI,YO,YOO,YU,ZA,ZE,ZEE,ZHA,
ZHE,ZHEE,ZHI,ZHO,ZHOO,ZHU,ZI,ZO,ZOO,ZU;VAI SYLLABLE NDOLE=DO,FA,KA,MA,SOO;VAI SYMBOL=BANG,DANG,
DO-O,DOONG,FAA,FEENG,JONG,KEENG,KUNG,NII,TAA,TING,TONG;VARIATION=SELECTOR-1,SELECTOR-10,
SELECTOR-100,SELECTOR-101,SELECTOR-102,SELECTOR-103,SELECTOR-104,SELECTOR-105,SELECTOR-106,
SELECTOR-107,SELECTOR-108,SELECTOR-109,SELECTOR-11,SELECTOR-110,SELECTOR-111,SELECTOR-112,
SELECTOR-113,SELECTOR-114,SELECTOR-115,SELECTOR-116,SELECTOR-117,SELECTOR-118,SELECTOR-119,
SELECTOR-12,SELECTOR-120,SELECTOR-121,SELECTOR-122,SELECTOR-123,SELECTOR-124,SELECTOR-125,
SELECTOR-126,SELECTOR-127,SELECTOR-128,SELECTOR-129,SELECTOR-13,SELECTOR-130,SELECTOR-131,
SELECTOR-132,SELECTOR-133,SELECTOR-134,SELECTOR-135,SELECTOR-136,SELECTOR-137,SELECTOR-138,
SELECTOR-139,SELECTOR-14,SELECTOR-140,SELECTOR-141,SELECTOR-142,SELECTOR-143,SELECTOR-144,
SELECTOR-145,SELECTOR-146,SELECTOR-147,SELECTOR-148,SELECTOR-149,SELECTOR-15,SELECTOR-150,
SELECTOR-151,SELECTOR-152,SELECTOR-153,SELECTOR-154,SELECTOR-155,SELECTOR-156,SELECTOR-157,
SELECTOR-158,SELECTOR-159,SELECTOR-16,SELECTOR-160,SELECTOR-161,SELECTOR-162,SELECTOR-163,
SELECTOR-164,SELECTOR-165,SELECTOR-166,SELECTOR-167,SELECTOR-168,SELECTOR-169,SELECTOR-17,
SELECTOR-170,SELECTOR-171,SELECTOR-172,SELECTOR-173,SELECTOR-174,SELECTOR-175,SELECTOR-176,
SELECTOR-177,SELECTOR-178,SELECTOR-179,SELECTOR-18,SELECTOR-180,SELECTOR-181,SELECTOR-182,
SELECTOR-183,SELECTOR-184,SELECTOR-185,SELECTOR-186,SELECTOR-187,SELECTOR-188,SELECTOR-189,
SELECTOR-19,SELECTOR-190,SELECTOR-191,SELECTOR-192,SELECTOR-193,SELECTOR-194,SELECTOR-195,
SELECTOR-196,SELECTOR-197,SELECTOR-198,SELECTOR-199,SELECTOR-2,SELECTOR-20,SELECTOR-200,
SELECTOR-201,SELECTOR-202,SELECTOR-203,SELECTOR-204,SELECTOR-205,SELECTOR-206,SELECTOR-207,
SELECTOR-208,SELECTOR-209,SELECTOR-21,SELECTOR-210,SELECTOR-211,SELECTOR-212,SELECTOR-213,
SELECTOR-214,SELECTOR-215,SELECTOR-216,SELECTOR-217,SELECTOR-218,SELECTOR-219,SELECTOR-22,
SELECTOR-220,SELECTOR-221,SELECTOR-222,SELECTOR-223,SELECTOR-224,SELECTOR-225,SELECTOR-226,
SELECTOR-227,SELECTOR-228,SELECTOR-229,SELECTOR-23,SELECTOR-230,SELECTOR-231,SELECTOR-232,
SELECTOR-233,SELECTOR-234,SELECTOR-235,SELECTOR-236,SELECTOR-237,SELECTOR-238,SELECTOR-239,
SELECTOR-24,SELECTOR-240,SELECTOR-241,SELECTOR-242,SELECTOR-243,SELECTOR-244,SELECTOR-245,
SELECTOR-246,SELECTOR-247,SELECTOR-248,SELECTOR-249,SELECTOR-25,SELECTOR-250,SELECTOR-251,
SELECTOR-252,SELECTOR-253,SELECTOR-254,SELECTOR-255,SELECTOR-256,SELECTOR-26,SELECTOR-27,
SELECTOR-28,SELECTOR-29,SELECTOR-3,SELECTOR-30,SELECTOR-31,SELECTOR-32,SELECTOR-33,SELECTOR-34,
SELECTOR-35,SELECTOR-36,SELECTOR-37,SELECTOR-38,SELECTOR-39,SELECTOR-4,SELECTOR-40,SELECTOR-41,
SELECTOR-42,SELECTOR-43,SELECTOR-44,SELECTOR-45,SELECTOR-46,SELECTOR-47,SELECTOR-48,SELECTOR-49,
SELECTOR-5,SELECTOR-50,SELECTOR-51,SELECTOR-52,SELECTOR-53,SELECTOR-54,SELECTOR-55,SELECTOR-56,
SELECTOR-57,SELECTOR-58,SELECTOR-59,SELECTOR-6,SELECTOR-60,SELECTOR-61,SELECTOR-62,SELECTOR-63,
SELECTOR-64,SELECTOR-65,SELECTOR-66,SELECTOR-67,SELECTOR-68,SELECTOR-69,SELECTOR-7,SELECTOR-70,
SELECTOR-71,SELECTOR-72,SELECTOR-73,SELECTOR-74,SELECTOR-75,SELECTOR-76,SELECTOR-77,SELECTOR-78,
SELECTOR-79,SELECTOR-8,SELECTOR-80,SELECTOR-81,SELECTOR-82,SELECTOR-83,SELECTOR-84,SELECTOR-85,
SELECTOR-86,SELECTOR-87,SELECTOR-88,SELECTOR-89,SELECTOR-9,SELECTOR-90,SELECTOR-91,SELECTOR-92,
SELECTOR-93,SELECTOR-94,SELECTOR-95,SELECTOR-96,SELECTOR-97,SELECTOR-98,SELECTOR-99;
VECTOR OR CROSS=PRODUCT;VEDIC SIGN=ARDHAVISARGA,ATIKRAMA,JIHVAMULIYA,NIHSHVASA,TIRYAK,UPADHMANIYA;
VEDIC SIGN ANUSVARA=ANTARGOMUKHA,BAHIRGOMUKHA,VAMAGOMUKHA;VEDIC SIGN ANUSVARA UBHAYATO=MUKHA;
VEDIC SIGN ANUSVARA VAMAGOMUKHA WITH=TAIL;VEDIC SIGN DOUBLE ANUSVARA=ANTARGOMUKHA;
VEDIC SIGN HEXIFORM LONG=ANUSVARA;VEDIC SIGN LONG=ANUSVARA;VEDIC SIGN REVERSED VISARGA=ANUDATTA,
UDATTA;VEDIC SIGN ROTATED=ARDHAVISARGA;VEDIC SIGN RTHANG LONG=ANUSVARA;VEDIC SIGN VISARGA=ANUDATTA,
SVARITA,UDATTA;VEDIC SIGN VISARGA ANUDATTA WITH=TAIL;VEDIC SIGN VISARGA UDATTA WITH=TAIL;
VEDIC SIGN YAJURVEDIC MIDLINE=SVARITA;VEDIC TONE=KARSHANA,PRENKHA,SHARA;
VEDIC TONE ATHARVAVEDIC INDEPENDENT=SVARITA;VEDIC TONE CANDRA=ABOVE,BELOW;VEDIC TONE DOT=BELOW;
VEDIC TONE DOUBLE=SVARITA;VEDIC TONE DOUBLE RING=ABOVE;VEDIC TONE KATHAKA=ANUDATTA;
VEDIC TONE RIGVEDIC KASHMIRI INDEPENDENT=SVARITA;VEDIC TONE RING=ABOVE;VEDIC TONE THREE DOTS=BELOW;
VEDIC TONE TRIPLE=SVARITA;VEDIC TONE TWO DOTS=BELOW;
VEDIC TONE YAJURVEDIC AGGRAVATED INDEPENDENT=SVARITA;VEDIC TONE YAJURVEDIC INDEPENDENT=SVARITA;
VEDIC TONE YAJURVEDIC KATHAKA INDEPENDENT=SVARITA;
VEDIC TONE YAJURVEDIC KATHAKA INDEPENDENT SVARITA=SCHROEDER;VERTICAL=ELLIPSIS,LINE,TABULATION,
TILDE;VERTICAL BAR BESIDE RIGHT=TRIANGLE;VERTICAL BAR DOUBLE LEFT=TURNSTILE;
VERTICAL BAR TRIPLE RIGHT=TURNSTILE;VERTICAL BAR WITH HORIZONTAL=STROKE;VERTICAL FOUR=DOTS;
VERTICAL IDEOGRAPHIC ITERATION=MARK;VERTICAL KANA REPEAT=MARK;VERTICAL KANA REPEAT MARK LOWER=HALF;
VERTICAL KANA REPEAT MARK UPPER=HALF;VERTICAL KANA REPEAT WITH VOICED SOUND=MARK;
VERTICAL KANA REPEAT WITH VOICED SOUND MARK UPPER=HALF;VERTICAL LINE=EXTENSION;
VERTICAL LINE WITH CIRCLE=ABOVE,BELOW;VERTICAL LINE WITH MIDDLE=DOT;VERTICAL MALE WITH STROKE=SIGN;
VERTICAL ONE EIGHTH=BLOCK-2,BLOCK-3,BLOCK-4,BLOCK-5,BLOCK-6,BLOCK-7;VERTICAL SIX=DOTS;
VERTICAL TAB=KEY;VERTICAL TABULATION=SET;VERTICAL TRAFFIC=LIGHT;VERTICAL ZIGZAG=LINE;
VERY BOLD GREEK=CROSS;VERY HEAVY=SALTIRE,SOLIDUS;VERY HEAVY EIGHT POINTED BLACK=STAR;
VERY HEAVY EIGHT SPOKED=ASTERISK;VERY HEAVY FIVE SPOKED=ASTERISK;VERY HEAVY GREEK=CROSS;
VERY HEAVY REVERSE=SOLIDUS;VERY HEAVY SIX SPOKED=ASTERISK;VERY HEAVY WHITE=CIRCLE,SQUARE;
VERY MUCH=GREATER-THAN,LESS-THAN;VIBRATION=MODE;VICTORY=HAND;VIDEO=CAMERA,GAME;
VIETNAMESE ALTERNATE READING MARK=CA,NHAY;VIEWDATA=SQUARE;VITHKUQI CAPITAL LETTER=A,BBE,BE,CE,CHE,
DE,DHE,E,EI,FE,GA,HA,HHA,I,IJE,JE,KA,LA,LLA,ME,NE,NJE,O,PE,QA,RE,SE,SHE,TE,THE,U,VE,XE,Y,ZE;
VITHKUQI SMALL LETTER=A,BBE,BE,CE,CHE,DE,DHE,E,EI,FE,GA,HA,HHA,I,IJE,JE,KA,LA,LLA,ME,NE,NJE,O,PE,
QA,RE,SE,SHE,TE,THE,U,VE,XE,Y,ZE;VOIDED GREEK=CROSS;VOLUME=INTEGRAL;VULGAR FRACTION FIVE=EIGHTHS,
SIXTHS;VULGAR FRACTION FOUR=FIFTHS;VULGAR FRACTION ONE=EIGHTH,FIFTH,HALF,NINTH,QUARTER,SEVENTH,
SIXTH,TENTH,THIRD;VULGAR FRACTION SEVEN=EIGHTHS;VULGAR FRACTION THREE=EIGHTHS,FIFTHS,QUARTERS;
VULGAR FRACTION TWO=FIFTHS,THIRDS;VULGAR FRACTION ZERO=THIRDS;WANCHO DIGIT=EIGHT,FIVE,FOUR,NINE,
ONE,SEVEN,SIX,THREE,TWO,ZERO;WANCHO LETTER=A,AA,AAN,AANG,ANG,AU,BA,CA,DA,E,EN,FA,GA,HA,I,ING,JA,KA,
KHA,LA,LLHA,MA,NA,NGA,NYA,O,ON,ONG,PA,PHA,RA,SA,SHA,TA,THA,TRA,TSA,U,UEN,VA,WA,YA,YIH,ZA;
WANCHO NGUN=SIGN;WANCHO TONE=KOI,KOINI,TUP,TUPNI;WANING CRESCENT MOON=SYMBOL;
WANING GIBBOUS MOON=SYMBOL;WARANG CITI=OM;WARANG CITI CAPITAL LETTER=A,AM,ANG,AT,BU,DA,E,ENN,ENY,
GA,HAR,HIYO,HOLO,HORR,II,KO,NGAA,NUNG,O,ODD,PU,SII,SSUU,TTE,UC,UU,VIYO,WI,YA,YO,YU,YUJ;
WARANG CITI DIGIT=EIGHT,FIVE,FOUR,NINE,ONE,SEVEN,SIX,THREE,TWO,ZERO;WARANG CITI NUMBER=EIGHTY,
FIFTY,FORTY,NINETY,SEVENTY,SIXTY,TEN,THIRTY,TWENTY;WARANG CITI SMALL LETTER=A,AM,ANG,AT,BU,DA,E,
ENN,ENY,GA,HAR,HIYO,HOLO,HORR,II,KO,NGAA,NUNG,O,ODD,PU,SII,SSUU,TTE,UC,UU,VIYO,WI,YA,YO,YU,YUJ;
WARNING=SIGN;WATER=BUFFALO,CLOSET,POLO,WAVE;WAVE=DASH;WAVE ARROW POINTING DIRECTLY=LEFT,RIGHT;
WAVING BLACK=FLAG;WAVING HAND=SIGN;WAVING WHITE=FLAG;WAVY=DASH,LINE,OVERLINE;WAVY LOW=LINE;
WAXING CRESCENT MOON=SYMBOL;WAXING GIBBOUS MOON=SYMBOL;WEARY=FACE;WEARY CAT=FACE;
WEDGE-TAILED RIGHTWARDS=ARROW;WEIERSTRASS ELLIPTIC=FUNCTION;WEIGHT=LIFTER;WEST SYRIAC=CROSS;
WHEEL OF=DHARMA;WHEELCHAIR=SYMBOL;WHITE=BULLET,CIRCLE,DIAMOND,FLAG,FLORETTE,FLOWER,HEART,HEXAGON,
HOURGLASS,NIB,PARALLELOGRAM,PENNANT,PENTAGON,RECTANGLE,SCISSORS,SQUARE,STAR,SUN,TELEPHONE,
TRAPEZIUM;WHITE ARROW SHAFT WIDTH=ONE;WHITE ARROW SHAFT WIDTH TWO=THIRDS;WHITE CHESS=BISHOP,
EQUIHOPPER,KING,KNIGHT,KNIGHT-BISHOP,KNIGHT-QUEEN,KNIGHT-ROOK,PAWN,QUEEN,ROOK;
WHITE CHESS BISHOP ROTATED NINETY=DEGREES;WHITE CHESS BISHOP ROTATED TWO HUNDRED SEVENTY=DEGREES;
WHITE CHESS EQUIHOPPER ROTATED NINETY=DEGREES;WHITE CHESS KING ROTATED NINETY=DEGREES;
WHITE CHESS KING ROTATED TWO HUNDRED SEVENTY=DEGREES;WHITE CHESS KNIGHT ROTATED FORTY-FIVE=DEGREES;
WHITE CHESS KNIGHT ROTATED NINETY=DEGREES;
WHITE CHESS KNIGHT ROTATED ONE HUNDRED THIRTY-FIVE=DEGREES;
WHITE CHESS KNIGHT ROTATED THREE HUNDRED FIFTEEN=DEGREES;
WHITE CHESS KNIGHT ROTATED TWO HUNDRED SEVENTY=DEGREES;
WHITE CHESS KNIGHT ROTATED TWO HUNDRED TWENTY-FIVE=DEGREES;WHITE CHESS PAWN ROTATED NINETY=DEGREES;
WHITE CHESS PAWN ROTATED TWO HUNDRED SEVENTY=DEGREES;WHITE CHESS QUEEN ROTATED NINETY=DEGREES;
WHITE CHESS QUEEN ROTATED TWO HUNDRED SEVENTY=DEGREES;WHITE CHESS ROOK ROTATED NINETY=DEGREES;
WHITE CHESS ROOK ROTATED TWO HUNDRED SEVENTY=DEGREES;WHITE CHESS TURNED=BISHOP,KING,KNIGHT,PAWN,
QUEEN,ROOK;WHITE CIRCLE CONTAINING BLACK SMALL=CIRCLE;WHITE CIRCLE WITH DOT=RIGHT;
WHITE CIRCLE WITH DOWN=ARROW;WHITE CIRCLE WITH LOWER LEFT=QUADRANT;
WHITE CIRCLE WITH LOWER RIGHT=QUADRANT;WHITE CIRCLE WITH TWO=DOTS;
WHITE CIRCLE WITH UPPER LEFT=QUADRANT;WHITE CIRCLE WITH UPPER RIGHT=QUADRANT;WHITE CLUB=SUIT;
WHITE CONCAVE-SIDED=DIAMOND;WHITE CONCAVE-SIDED DIAMOND WITH LEFTWARDS=TICK;
WHITE CONCAVE-SIDED DIAMOND WITH RIGHTWARDS=TICK;WHITE DIAMOND=SUIT;
WHITE DIAMOND CONTAINING BLACK MEDIUM=DIAMOND;WHITE DIAMOND CONTAINING BLACK SMALL=DIAMOND;
WHITE DIAMOND CONTAINING BLACK VERY SMALL=DIAMOND;WHITE DIAMOND IN=SQUARE;
WHITE DIAMOND WITH CENTRED=DOT;WHITE DOWN POINTING=INDEX;WHITE DOWN POINTING BACKHAND=INDEX;
WHITE DOWN POINTING LEFT HAND=INDEX;WHITE DOWN-POINTING=TRIANGLE;
WHITE DOWN-POINTING SMALL=TRIANGLE;WHITE DRAUGHTS=KING,MAN;WHITE EXCLAMATION MARK=ORNAMENT;
WHITE FLAG WITH HORIZONTAL MIDDLE BLACK=STRIPE;WHITE FOUR POINTED=CUSP,STAR;WHITE FROWNING=FACE;
WHITE HARD SHELL FLOPPY=DISK;WHITE HEART=SUIT;WHITE HEAVY CHECK=MARK;
WHITE HEAVY SALTIRE WITH ROUNDED=CORNERS;WHITE HORIZONTAL=ELLIPSE;WHITE LARGE=SQUARE;
WHITE LATIN=CROSS;WHITE LEFT LANE=MERGE;WHITE LEFT POINTING=INDEX;
WHITE LEFT POINTING BACKHAND=INDEX;WHITE LEFT-POINTING=POINTER,TRIANGLE;
WHITE LEFT-POINTING SMALL=TRIANGLE;WHITE LOZENGE CONTAINING BLACK SMALL=LOZENGE;
WHITE MEDIUM=DIAMOND,LOZENGE,SQUARE,STAR;WHITE MEDIUM SMALL=SQUARE;WHITE MOON=SELENA;
WHITE QUESTION MARK=ORNAMENT;WHITE RIGHT POINTING=INDEX;WHITE RIGHT POINTING BACKHAND=INDEX;
WHITE RIGHT-POINTING=PENTAGON,POINTER,TRIANGLE;WHITE RIGHT-POINTING SMALL=TRIANGLE;
WHITE SESAME=DOT;WHITE SHOGI=PIECE;WHITE SMALL=LOZENGE,SQUARE,STAR;WHITE SMILING=FACE;
WHITE SPADE=SUIT;WHITE SQUARE=BUTTON;WHITE SQUARE CONTAINING BLACK MEDIUM=SQUARE;
WHITE SQUARE CONTAINING BLACK SMALL=SQUARE;WHITE SQUARE CONTAINING BLACK VERY SMALL=SQUARE;
WHITE SQUARE WITH CENTRE VERTICAL=LINE;WHITE SQUARE WITH LEFTWARDS=TICK;
WHITE SQUARE WITH LOWER LEFT=QUADRANT;WHITE SQUARE WITH LOWER RIGHT=QUADRANT;
WHITE SQUARE WITH RIGHTWARDS=TICK;WHITE SQUARE WITH ROUNDED=CORNERS;
WHITE SQUARE WITH UPPER LEFT=QUADRANT;WHITE SQUARE WITH UPPER RIGHT=QUADRANT;
WHITE SQUARE WITH VERTICAL BISECTING=LINE;WHITE SUN BEHIND=CLOUD;WHITE SUN BEHIND CLOUD WITH=RAIN;
WHITE SUN WITH=RAYS;WHITE SUN WITH SMALL=CLOUD;WHITE TOUCHTONE=TELEPHONE;
WHITE TRIANGLE CONTAINING SMALL WHITE=TRIANGLE;WHITE TWO-WAY LEFT WAY=TRAFFIC;
WHITE UP POINTING=INDEX;WHITE UP POINTING BACKHAND=INDEX;WHITE UP-POINTING=CHEVRON,TRIANGLE;
WHITE UP-POINTING SMALL=TRIANGLE;WHITE UP-POINTING TRIANGLE WITH=DOT;WHITE VERTICAL=BAR,ELLIPSE,
RECTANGLE;WHITE VERY SMALL=SQUARE;WHITE-FEATHERED RIGHTWARDS=ARROW;
WIDE-HEADED DOWNWARDS BARB=ARROW;WIDE-HEADED DOWNWARDS HEAVY BARB=ARROW;
WIDE-HEADED DOWNWARDS LIGHT BARB=ARROW;WIDE-HEADED DOWNWARDS MEDIUM BARB=ARROW;
WIDE-HEADED DOWNWARDS VERY HEAVY BARB=ARROW;WIDE-HEADED LEFTWARDS BARB=ARROW;
WIDE-HEADED LEFTWARDS HEAVY BARB=ARROW;WIDE-HEADED LEFTWARDS LIGHT BARB=ARROW;
WIDE-HEADED LEFTWARDS MEDIUM BARB=ARROW;WIDE-HEADED LEFTWARDS VERY HEAVY BARB=ARROW;
WIDE-HEADED NORTH EAST BARB=ARROW;WIDE-HEADED NORTH EAST HEAVY BARB=ARROW;
WIDE-HEADED NORTH EAST LIGHT BARB=ARROW;WIDE-HEADED NORTH EAST MEDIUM BARB=ARROW;
WIDE-HEADED NORTH EAST VERY HEAVY BARB=ARROW;WIDE-HEADED NORTH WEST BARB=ARROW;
WIDE-HEADED NORTH WEST HEAVY BARB=ARROW;WIDE-HEADED NORTH WEST LIGHT BARB=ARROW;
WIDE-HEADED NORTH WEST MEDIUM BARB=ARROW;WIDE-HEADED NORTH WEST VERY HEAVY BARB=ARROW;
WIDE-HEADED RIGHTWARDS BARB=ARROW;WIDE-HEADED RIGHTWARDS HEAVY BARB=ARROW;
WIDE-HEADED RIGHTWARDS LIGHT BARB=ARROW;WIDE-HEADED RIGHTWARDS MEDIUM BARB=ARROW;
WIDE-HEADED RIGHTWARDS VERY HEAVY BARB=ARROW;WIDE-HEADED SOUTH EAST BARB=ARROW;
WIDE-HEADED SOUTH EAST HEAVY BARB=ARROW;WIDE-HEADED SOUTH EAST LIGHT BARB=ARROW;
WIDE-HEADED SOUTH EAST MEDIUM BARB=ARROW;WIDE-HEADED SOUTH EAST VERY HEAVY BARB=ARROW;
WIDE-HEADED SOUTH WEST BARB=ARROW;WIDE-HEADED SOUTH WEST HEAVY BARB=ARROW;
WIDE-HEADED SOUTH WEST LIGHT BARB=ARROW;WIDE-HEADED SOUTH WEST MEDIUM BARB=ARROW;
WIDE-HEADED SOUTH WEST VERY HEAVY BARB=ARROW;WIDE-HEADED UPWARDS BARB=ARROW;
WIDE-HEADED UPWARDS HEAVY BARB=ARROW;WIDE-HEADED UPWARDS LIGHT BARB=ARROW;
WIDE-HEADED UPWARDS MEDIUM BARB=ARROW;WIDE-HEADED UPWARDS VERY HEAVY BARB=ARROW;
WIGGLY VERTICAL=LINE;WILTED=FLOWER;WIND=CHIME;WIND BLOWING=FACE;WINE=GLASS;WINKING=FACE;
WIRED=KEYBOARD;WOLF=FACE;WOMAN WITH BUNNY=EARS;WOMANS=BOOTS,CLOTHES,HAT,SANDAL;WOMENS=SYMBOL;
WON=SIGN;WORD=JOINER;WORD SEPARATOR MIDDLE=DOT;WORLD=MAP;WORRIED=FACE;WRAPPED=PRESENT;
WREATH=PRODUCT;WRITING=HAND;X IN A RECTANGLE=BOX;XIANGQI BLACK=CANNON,CHARIOT,ELEPHANT,GENERAL,
HORSE,MANDARIN,SOLDIER;XIANGQI RED=CANNON,CHARIOT,ELEPHANT,GENERAL,HORSE,MANDARIN,SOLDIER;
YAWNING=FACE;YELLOW=HEART;YEN=SIGN;YEZIDI COMBINING HAMZA=MARK;YEZIDI COMBINING MADDA=MARK;
YEZIDI HYPHENATION=MARK;YEZIDI LETTER=BE,CHHIM,CHIM,CIM,DAD,DAL,ELIF,ET,EW,EYN,FA,GAF,HAY,HHA,JA,
KAF,KHAF,LAM,MIM,NUN,OW,PE,PHE,QAF,RA,RHA,SAD,SE,SHIN,SIN,TA,THE,UM,VA,WAW,XA,XHEYN,YOT,ZA,ZAL,ZE;
YEZIDI LETTER LAM WITH DOT=ABOVE;YEZIDI LETTER VA ALTERNATE=FORM;
YEZIDI LETTER YOT WITH CIRCUMFLEX=ABOVE;YI RADICAL=BBUT,BUR,CHE,CIP,CUOP,CY,CYP,CYT,DDUR,DU,GA,GEP,
GGOP,GGUO,GOT,HMO,HXIT,HXOP,HXUO,JJIE,JJUT,JJY,JO,KE,KIT,LI,LIE,LYR,MI,MOP,NBIE,NYIP,NYOP,NZUP,OP,
PUT,PYT,QOT,SHAT,SHOP,SHUR,SHY,SSI,TAT,TU,VEP,VUR,WO,YIT,YO,ZA,ZOT,ZUP,ZUR,ZZIET;YI SYLLABLE=A,AP,
AT,AX,BA,BAP,BAT,BAX,BBA,BBAP,BBAT,BBAX,BBE,BBEP,BBEX,BBI,BBIE,BBIEP,BBIET,BBIEX,BBIP,BBIT,BBIX,
BBO,BBOP,BBOT,BBOX,BBU,BBUO,BBUOP,BBUOX,BBUP,BBUR,BBURX,BBUT,BBUX,BBY,BBYP,BBYT,BBYX,BE,BEP,BEX,BI,
BIE,BIEP,BIET,BIEX,BIP,BIT,BIX,BO,BOP,BOT,BOX,BU,BUO,BUOP,BUOX,BUP,BUR,BURX,BUT,BUX,BY,BYP,BYR,
BYRX,BYT,BYX,CA,CAP,CAT,CAX,CE,CEP,CEX,CHA,CHAP,CHAT,CHAX,CHE,CHEP,CHET,CHEX,CHO,CHOP,CHOT,CHOX,
CHU,CHUO,CHUOP,CHUOT,CHUOX,CHUP,CHUR,CHURX,CHUX,CHY,CHYP,CHYR,CHYRX,CHYT,CHYX,CI,CIE,CIEP,CIET,
CIEX,CIP,CIT,CIX,CO,COP,COT,COX,CU,CUO,CUOP,CUOX,CUP,CUR,CURX,CUT,CUX,CY,CYP,CYR,CYRX,CYT,CYX,DA,
DAP,DAT,DAX,DDA,DDAP,DDAT,DDAX,DDE,DDEP,DDEX,DDI,DDIE,DDIEP,DDIEX,DDIP,DDIT,DDIX,DDO,DDOP,DDOT,
DDOX,DDU,DDUO,DDUOP,DDUOX,DDUP,DDUR,DDURX,DDUT,DDUX,DE,DEP,DEX,DI,DIE,DIEP,DIEX,DIP,DIT,DIX,DO,DOP,
DOT,DOX,DU,DUO,DUOX,DUP,DUR,DURX,DUT,DUX,E,EX,FA,FAP,FAT,FAX,FI,FIP,FIT,FIX,FO,FOP,FOX,FU,FUP,FUR,
FURX,FUT,FUX,FY,FYP,FYT,FYX,GA,GAP,GAT,GAX,GE,GEP,GET,GEX,GGA,GGAP,GGAT,GGAX,GGE,GGEP,GGET,GGEX,
GGI,GGIE,GGIEP,GGIEX,GGIT,GGIX,GGO,GGOP,GGOT,GGOX,GGU,GGUO,GGUOP,GGUOT,GGUOX,GGUP,GGUR,GGURX,GGUT,
GGUX,GI,GIE,GIEP,GIET,GIEX,GIP,GIT,GIX,GO,GOP,GOT,GOX,GU,GUO,GUOP,GUOT,GUOX,GUP,GUR,GURX,GUT,GUX,
HA,HAP,HAT,HAX,HE,HEP,HEX,HIE,HIEX,HIT,HLA,HLAP,HLAT,HLAX,HLE,HLEP,HLEX,HLI,HLIE,HLIEP,HLIEX,HLIP,
HLIT,HLIX,HLO,HLOP,HLOX,HLU,HLUO,HLUOP,HLUOX,HLUP,HLUR,HLURX,HLUT,HLUX,HLY,HLYP,HLYR,HLYRX,HLYT,
HLYX,HMA,HMAP,HMAT,HMAX,HMI,HMIE,HMIEP,HMIEX,HMIP,HMIT,HMIX,HMO,HMOP,HMOT,HMOX,HMU,HMUO,HMUOP,
HMUOX,HMUP,HMUR,HMURX,HMUT,HMUX,HMY,HMYP,HMYR,HMYRX,HMYX,HNA,HNAP,HNAT,HNAX,HNE,HNEP,HNEX,HNI,HNIE,
HNIEP,HNIET,HNIEX,HNIP,HNIT,HNIX,HNOP,HNOT,HNOX,HNUO,HNUOX,HNUT,HO,HOP,HOT,HOX,HUO,HUOP,HUOT,HUOX,
HXA,HXAP,HXAT,HXAX,HXE,HXEP,HXEX,HXI,HXIE,HXIEP,HXIET,HXIEX,HXIP,HXIT,HXIX,HXO,HXOP,HXOT,HXOX,HXUO,
HXUOP,HXUOT,HXUOX,I,IE,IEP,IET,IEX,IP,IT,IX,JI,JIE,JIEP,JIET,JIEX,JIP,JIT,JIX,JJI,JJIE,JJIEP,JJIET,
JJIEX,JJIP,JJIT,JJIX,JJO,JJOP,JJOT,JJOX,JJU,JJUO,JJUOP,JJUOX,JJUP,JJUR,JJURX,JJUT,JJUX,JJY,JJYP,
JJYT,JJYX,JO,JOP,JOT,JOX,JU,JUO,JUOP,JUOT,JUOX,JUP,JUR,JURX,JUT,JUX,JY,JYP,JYR,JYRX,JYT,JYX,KA,KAP,
KAT,KAX,KE,KEP,KET,KEX,KI,KIE,KIEP,KIEX,KIP,KIT,KIX,KO,KOP,KOT,KOX,KU,KUO,KUOP,KUOX,KUP,KUR,KURX,
KUT,KUX,LA,LAP,LAT,LAX,LE,LEP,LEX,LI,LIE,LIEP,LIET,LIEX,LIP,LIT,LIX,LO,LOP,LOT,LOX,LU,LUO,LUOP,
LUOT,LUOX,LUP,LUR,LURX,LUT,LUX,LY,LYP,LYR,LYRX,LYT,LYX,MA,MAP,MAT,MAX,ME,MEX,MGA,MGAP,MGAT,MGAX,
MGE,MGEP,MGEX,MGIE,MGIEX,MGO,MGOP,MGOT,MGOX,MGU,MGUO,MGUOP,MGUOX,MGUP,MGUR,MGURX,MGUT,MGUX,MI,MIE,
MIEP,MIEX,MIP,MIT,MIX,MO,MOP,MOT,MOX,MU,MUO,MUOP,MUOT,MUOX,MUP,MUR,MURX,MUT,MUX,MY,MYP,MYT,MYX,NA,
NAP,NAX,NBA,NBAP,NBAT,NBAX,NBI,NBIE,NBIEP,NBIEX,NBIP,NBIT,NBIX,NBO,NBOP,NBOT,NBOX,NBU,NBUP,NBUR,
NBURX,NBUT,NBUX,NBY,NBYP,NBYR,NBYRX,NBYT,NBYX,NDA,NDAP,NDAT,NDAX,NDE,NDEP,NDEX,NDI,NDIE,NDIEX,NDIP,
NDIT,NDIX,NDO,NDOP,NDOT,NDOX,NDU,NDUP,NDUR,NDURX,NDUT,NDUX,NE,NEP,NEX,NGA,NGAP,NGAT,NGAX,NGE,NGEP,
NGEX,NGIE,NGIEP,NGIEX,NGO,NGOP,NGOT,NGOX,NGUO,NGUOT,NGUOX,NI,NIE,NIEP,NIEX,NIP,NIT,NIX,NJI,NJIE,
NJIEP,NJIET,NJIEX,NJIP,NJIT,NJIX,NJO,NJOP,NJOT,NJOX,NJU,NJUO,NJUOX,NJUP,NJUR,NJURX,NJUX,NJY,NJYP,
NJYR,NJYRX,NJYT,NJYX,NO,NOP,NOT,NOX,NRA,NRAP,NRAT,NRAX,NRE,NREP,NRET,NREX,NRO,NROP,NROX,NRU,NRUP,
NRUR,NRURX,NRUT,NRUX,NRY,NRYP,NRYR,NRYRX,NRYT,NRYX,NU,NUO,NUOP,NUOX,NUP,NUR,NURX,NUT,NUX,NYI,NYIE,
NYIEP,NYIET,NYIEX,NYIP,NYIT,NYIX,NYO,NYOP,NYOT,NYOX,NYU,NYUO,NYUOP,NYUOX,NYUP,NYUT,NYUX,NZA,NZAP,
NZAT,NZAX,NZE,NZEX,NZI,NZIE,NZIEP,NZIEX,NZIP,NZIT,NZIX,NZOP,NZOX,NZU,NZUO,NZUOX,NZUP,NZUR,NZURX,
NZUX,NZY,NZYP,NZYR,NZYRX,NZYT,NZYX,O,OP,OT,OX,PA,PAP,PAT,PAX,PI,PIE,PIEP,PIEX,PIP,PIT,PIX,PO,POP,
POT,POX,PU,PUO,PUOP,PUOX,PUP,PUR,PURX,PUT,PUX,PY,PYP,PYR,PYRX,PYT,PYX,QI,QIE,QIEP,QIET,QIEX,QIP,
QIT,QIX,QO,QOP,QOT,QOX,QU,QUO,QUOP,QUOT,QUOX,QUP,QUR,QURX,QUT,QUX,QY,QYP,QYR,QYRX,QYT,QYX,RA,RAP,
RAT,RAX,RE,REP,REX,RO,ROP,ROT,ROX,RRA,RRAX,RRE,RREP,RRET,RREX,RRO,RROP,RROT,RROX,RRU,RRUO,RRUOX,
RRUP,RRUR,RRURX,RRUT,RRUX,RRY,RRYP,RRYR,RRYRX,RRYT,RRYX,RU,RUO,RUOP,RUOX,RUP,RUR,RURX,RUT,RUX,RY,
RYP,RYR,RYRX,RYT,RYX,SA,SAP,SAT,SAX,SE,SEP,SEX,SHA,SHAP,SHAT,SHAX,SHE,SHEP,SHET,SHEX,SHO,SHOP,SHOT,
SHOX,SHU,SHUO,SHUOP,SHUOX,SHUP,SHUR,SHURX,SHUT,SHUX,SHY,SHYP,SHYR,SHYRX,SHYT,SHYX,SI,SIE,SIEP,SIEX,
SIP,SIT,SIX,SO,SOP,SOT,SOX,SSA,SSAP,SSAT,SSAX,SSE,SSEP,SSEX,SSI,SSIE,SSIEP,SSIEX,SSIP,SSIT,SSIX,
SSO,SSOP,SSOT,SSOX,SSU,SSUP,SSUT,SSUX,SSY,SSYP,SSYR,SSYRX,SSYT,SSYX,SU,SUO,SUOP,SUOX,SUP,SUR,SURX,
SUT,SUX,SY,SYP,SYR,SYRX,SYT,SYX,TA,TAP,TAT,TAX,TE,TEP,TEX,TI,TIE,TIEP,TIEX,TIP,TIT,TIX,TO,TOP,TOT,
TOX,TU,TUO,TUOP,TUOT,TUOX,TUP,TUR,TURX,TUT,TUX,UO,UOP,UOX,VA,VAP,VAT,VAX,VEP,VEX,VI,VIE,VIEP,VIET,
VIEX,VIP,VIT,VIX,VO,VOP,VOT,VOX,VU,VUP,VUR,VURX,VUT,VUX,VY,VYP,VYR,VYRX,VYT,VYX,WA,WAP,WAT,WAX,WE,
WEP,WEX,WO,WOP,WOX,WU,WUO,WUOP,WUOX,XI,XIE,XIEP,XIET,XIEX,XIP,XIT,XIX,XO,XOP,XOT,XOX,XUO,XUOX,XY,
XYP,XYR,XYRX,XYT,XYX,YI,YIE,YIEP,YIET,YIEX,YIP,YIT,YIX,YO,YOP,YOT,YOX,YU,YUO,YUOP,YUOT,YUOX,YUP,
YUR,YURX,YUT,YUX,YY,YYP,YYR,YYRX,YYT,YYX,ZA,ZAP,ZAT,ZAX,ZE,ZEP,ZEX,ZHA,ZHAP,ZHAT,ZHAX,ZHE,ZHEP,
ZHET,ZHEX,ZHO,ZHOP,ZHOT,ZHOX,ZHU,ZHUO,ZHUOP,ZHUOX,ZHUP,ZHUR,ZHURX,ZHUT,ZHUX,ZHY,ZHYP,ZHYR,ZHYRX,
ZHYT,ZHYX,ZI,ZIE,ZIEP,ZIEX,ZIP,ZIT,ZIX,ZO,ZOP,ZOT,ZOX,ZU,ZUO,ZUOP,ZUOX,ZUP,ZUR,ZURX,ZUT,ZUX,ZY,ZYP,
ZYR,ZYRX,ZYT,ZYX,ZZA,ZZAP,ZZAT,ZZAX,ZZE,ZZEP,ZZEX,ZZI,ZZIE,ZZIEP,ZZIET,ZZIEX,ZZIP,ZZIT,ZZIX,ZZO,
ZZOP,ZZOX,ZZU,ZZUP,ZZUR,ZZURX,ZZUX,ZZY,ZZYP,ZZYR,ZZYRX,ZZYT,ZZYX;YI SYLLABLE ITERATION=MARK;
YIN=YANG;Z NOTATION=SPOT;Z NOTATION BAG=MEMBERSHIP;Z NOTATION DOMAIN=ANTIRESTRICTION;
Z NOTATION LEFT BINDING=BRACKET;Z NOTATION LEFT IMAGE=BRACKET;Z NOTATION RANGE=ANTIRESTRICTION;
Z NOTATION RELATIONAL=COMPOSITION;Z NOTATION RIGHT BINDING=BRACKET;Z NOTATION RIGHT IMAGE=BRACKET;
Z NOTATION SCHEMA=COMPOSITION,PIPING,PROJECTION;Z NOTATION TYPE=COLON;ZANABAZAR SQUARE=SUBJOINER;
ZANABAZAR SQUARE CLOSING DOUBLE-LINED HEAD=MARK;ZANABAZAR SQUARE CLOSING HEAD=MARK;
ZANABAZAR SQUARE CLUSTER-FINAL LETTER=LA,RA,VA,YA;ZANABAZAR SQUARE CLUSTER-INITIAL LETTER=RA;
ZANABAZAR SQUARE FINAL CONSONANT=MARK;ZANABAZAR SQUARE INITIAL DOUBLE-LINED HEAD=MARK;
ZANABAZAR SQUARE INITIAL HEAD=MARK;ZANABAZAR SQUARE LETTER=-A,A,BA,BHA,CA,CHA,DA,DDA,DDHA,DHA,DZA,
DZHA,GA,GHA,HA,JA,KA,KHA,KSSA,LA,MA,NA,NGA,NNA,NYA,PA,PHA,RA,SA,SHA,SSA,TA,THA,TSA,TSHA,TTA,TTHA,
VA,YA,ZA,ZHA;ZANABAZAR SQUARE MARK=SHAD,TSHEG;ZANABAZAR SQUARE MARK DOUBLE=SHAD;
ZANABAZAR SQUARE MARK LONG=TSHEG;ZANABAZAR SQUARE SIGN=ANUSVARA,CANDRABINDU,VIRAMA,VISARGA;
ZANABAZAR SQUARE SIGN CANDRA WITH=ORNAMENT;ZANABAZAR SQUARE SIGN CANDRABINDU WITH=ORNAMENT;
ZANABAZAR SQUARE VOWEL LENGTH=MARK;ZANABAZAR SQUARE VOWEL SIGN=AI,AU,E,I,O,OE,U,UE;
ZANABAZAR SQUARE VOWEL SIGN REVERSED=I;ZEBRA=FACE;ZERO WIDTH=JOINER,NON-JOINER,SPACE;
ZERO WIDTH NO-BREAK=SPACE;ZIPPER-MOUTH=FACE;ZNAMENNY COMBINING ATTACHING VERTICAL=OMET;
ZNAMENNY COMBINING LOWER TONAL RANGE=INDICATOR;ZNAMENNY COMBINING MARK=BORZAYA,CHASHKA,DVOETOCHIE,
KACHKA,KRYZH,KUPNAYA,LOMKA,OBLACHKO,ON,OTSECHKA,PODCHASHIE,PODVERTKA,RAVNO,RAZSEKA,SKOBA,TIKHAYA,
TOCHKA,UDARKA,ZADERZHKA,ZELO,ZEVOK;ZNAMENNY COMBINING MARK CHASHKA=POLNAYA;
ZNAMENNY COMBINING MARK CURVED=OMET;ZNAMENNY COMBINING MARK DEMESTVENNY=ZADERZHKA;
ZNAMENNY COMBINING MARK GORAZDO=VYSOKO;ZNAMENNY COMBINING MARK GORAZDO NIZKO ON=LEFT,RIGHT;
ZNAMENNY COMBINING MARK GORAZDO NIZKO S KRYZHEM ON=LEFT,RIGHT;
ZNAMENNY COMBINING MARK KRYZH ON=LEFT;ZNAMENNY COMBINING MARK MALO POVYSHE=STRANNO;
ZNAMENNY COMBINING MARK MALO POVYSHE ON=LEFT,RIGHT;ZNAMENNY COMBINING MARK MALO POVYSHE S=KRYZHEM;
ZNAMENNY COMBINING MARK MALO POVYSHE S KHOKHLOM ON=LEFT,RIGHT;
ZNAMENNY COMBINING MARK NIZKO ON=LEFT,RIGHT;ZNAMENNY COMBINING MARK NIZKO S KRYZHEM ON=LEFT,RIGHT;
ZNAMENNY COMBINING MARK PODCHASHIE WITH VERTICAL=STROKE;ZNAMENNY COMBINING MARK POVYSHE=STRANNO;
ZNAMENNY COMBINING MARK POVYSHE ON=LEFT,RIGHT;ZNAMENNY COMBINING MARK POVYSHE S=KRYZHEM;
ZNAMENNY COMBINING MARK POVYSHE S KHOKHLOM ON=LEFT,RIGHT;ZNAMENNY COMBINING MARK SOROCHYA=NOZHKA;
ZNAMENNY COMBINING MARK SREDNE ON=LEFT,RIGHT;ZNAMENNY COMBINING MARK STRANNO MALO=POVYSHE;
ZNAMENNY COMBINING MARK TSATA ON=LEFT,RIGHT;ZNAMENNY COMBINING MARK TSATA S=KRYZHEM;
ZNAMENNY COMBINING MARK VYSOKO ON=LEFT,RIGHT;ZNAMENNY COMBINING MARK VYSOKO S=KRYZHEM;
ZNAMENNY COMBINING MARK VYSOKO S KHOKHLOM ON=LEFT,RIGHT;
ZNAMENNY COMBINING TONAL RANGE MARK=MRACHNO,SVETLO,TRESVETLO;ZNAMENNY NEUME=CHASHKA,CHELYUSTKA,
DERBITSA,DUDA,FITA,KHAMILO,KLYUCH,KOBYLA,KRYUK,KRYZH,KUFISMA,MECHIK,NEMKA,OBLAKO,OSOKA,PALKA,
PARAKLIT,PAUK,PEREVODKA,PODCHASHIE,POLKULIZMY,ROG,SLOZHITIE,STATYA,STOPITSA,ZANOZHEK,ZAPYATAYA,
ZMEYTSA;ZNAMENNY NEUME DEMESTVENNY=KLYUCH;ZNAMENNY NEUME DOUBLE=ZAPYATAYA;
ZNAMENNY NEUME DVA V=CHELNU;ZNAMENNY NEUME GOLUBCHIK=BORZY,MRACHNY,SVETLY,TIKHY,TRESVETLY;
ZNAMENNY NEUME KRYUK=TIKHY;ZNAMENNY NEUME MECHIK=KLYUCHENEPOSTOYANNY,KLYUCHEPOVODNY,KLYUCHEVOY,
POVODNY;ZNAMENNY NEUME OSOKA=SVETLAYA,TRESVETLAYA;ZNAMENNY NEUME OSOKA KLYUCHEVAYA=NEPOSTOYANNAYA,
SVETLAYA;ZNAMENNY NEUME OSOKA KRYUKOVAYA=SVETLAYA;ZNAMENNY NEUME PEREVODKA=NEPOSTOYANNAYA;
ZNAMENNY NEUME REVERSED=CHELYUSTKA;ZNAMENNY NEUME SKAMEYTSA=KLYUCHENEPOSTOYANNAYA,MRACHNAYA,
SVETLAYA,TIKHAYA,TRESVETLAYA;ZNAMENNY NEUME SKAMEYTSA DVOECHELNAYA=KLYUCHEVAYA,NEPOSTOYANNAYA,
PROSTAYA,SVETLAYA;ZNAMENNY NEUME SKAMEYTSA KLYUCHEVAYA=SVETLAYA,TIKHAYA;
ZNAMENNY NEUME SLOZHITIE=ZAKRYTOE;ZNAMENNY NEUME SLOZHITIE S=KRYZHEM,ZAPYATOY;
ZNAMENNY NEUME STATYA=NEPOSTOYANNAYA,ZAKRYTAYA;ZNAMENNY NEUME STATYA S=KRYZHEM,ROGOM,ZAPYATOY;
ZNAMENNY NEUME STATYA S DVUMYA=ZAPYATYMI;ZNAMENNY NEUME STATYA S KRYZHEM I=ZAPYATOY;
ZNAMENNY NEUME STATYA S ZAPYATOY I=KRYZHEM,PODCHASHIEM;ZNAMENNY NEUME STATYA ZAKRYTAYA S=ZAPYATOY;
ZNAMENNY NEUME STOPITSA S=OCHKOM;ZNAMENNY NEUME STOPITSA WITH SOROCHYA=NOZHKA;
ZNAMENNY NEUME STRELA=DVOECHELNAYA,DVOECHELNOKRYZHEVAYA,DVOECHELNOPOVODNAYA,GROMNAYA,
GROMOKRYZHEVAYA,GROMOPOVODNAYA,KLYUCHENEPOSTOYANNAYA,KLYUCHEPOVODNAYA,KRYUKOVAYA,KRYZHEVAYA,
MRACHNOTIKHAYA,NEPOSTOYANNAYA,POLUPOVODNAYA,POVODNAYA,PROSTAYA,TRYASOGLASNAYA,TRYASOPOVODNAYA,
TRYASOSTRELNAYA;ZNAMENNY NEUME STRELA DVOECHELNAYA=KLYUCHEVAYA;
ZNAMENNY NEUME STRELA DVOECHELNOPOVODNAYA=KLYUCHEVAYA;
ZNAMENNY NEUME STRELA GROMNAYA WITH SINGLE=ZAPYATAYA;
ZNAMENNY NEUME STRELA GROMOKRYZHEVAYA=POVODNAYA;
ZNAMENNY NEUME STRELA GROMOPOVODNAYA WITH DOUBLE=ZAPYATAYA;
ZNAMENNY NEUME STRELA GROMOPOVODNAYA WITH SINGLE=ZAPYATAYA;
ZNAMENNY NEUME STRELA KRYUKOVAYA=GROMNAYA,GROMOKRYZHEVAYA,GROMOPOVODNAYA,POVODNAYA,TRYASKA;
ZNAMENNY NEUME STRELA KRYUKOVAYA GROMNAYA WITH SINGLE=ZAPYATAYA;
ZNAMENNY NEUME STRELA KRYUKOVAYA GROMOKRYZHEVAYA=POVODNAYA;
ZNAMENNY NEUME STRELA KRYUKOVAYA GROMOPOVODNAYA WITH DOUBLE=ZAPYATAYA;
ZNAMENNY NEUME STRELA KRYUKOVAYA GROMOPOVODNAYA WITH SINGLE=ZAPYATAYA;
ZNAMENNY NEUME STRELA TIKHAYA=PUTNAYA;ZNAMENNY NEUME VRAKHIYA=MRACHNAYA,PROSTAYA,SVETLAYA,
TRESVETLAYA;ZNAMENNY NEUME VRAKHIYA KLYUCHEVAYA=MRACHNAYA,PROSTAYA,SVETLAYA,TRESVETLAYA;
ZNAMENNY PRIZNAK MODIFIER=KRYZH,LEVEL-2,LEVEL-3,ROG;ZNAMENNY PRIZNAK MODIFIER DIRECTION=FLIP"

end Prepress.Text
