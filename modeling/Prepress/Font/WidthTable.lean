/-
# Widths of characters

The widths of the standard faces, in thousandths of the font size.
-/

namespace Prepress.Font

/-- The text characters: code point, and width in the sans-serif face, in its bold variant and
in the serif face.  In the typewriter face they are all equally wide. -/
def letterWidths : List (Nat × Nat × Nat × Nat) :=
  [
    (0x20, 278, 278, 250), (0x21, 278, 333, 333), (0x22, 355, 474, 408), (0x23, 556, 556, 500),
    (0x24, 556, 556, 500), (0x25, 889, 889, 833), (0x26, 667, 722, 778), (0x27, 191, 238, 180),
    (0x28, 333, 333, 333), (0x29, 333, 333, 333), (0x2A, 389, 389, 500), (0x2B, 584, 584, 564),
    (0x2C, 278, 278, 250), (0x2D, 333, 333, 333), (0x2E, 278, 278, 250), (0x2F, 278, 278, 278),
    (0x30, 556, 556, 500), (0x31, 556, 556, 500), (0x32, 556, 556, 500), (0x33, 556, 556, 500),
    (0x34, 556, 556, 500), (0x35, 556, 556, 500), (0x36, 556, 556, 500), (0x37, 556, 556, 500),
    (0x38, 556, 556, 500), (0x39, 556, 556, 500), (0x3A, 278, 333, 278), (0x3B, 278, 333, 278),
    (0x3C, 584, 584, 564), (0x3D, 584, 584, 564), (0x3E, 584, 584, 564), (0x3F, 556, 611, 444),
    (0x40, 1015, 975, 921), (0x41, 667, 722, 722), (0x42, 667, 722, 667), (0x43, 722, 722, 667),
    (0x44, 722, 722, 722), (0x45, 667, 667, 611), (0x46, 611, 611, 556), (0x47, 778, 778, 722),
    (0x48, 722, 722, 722), (0x49, 278, 278, 333), (0x4A, 500, 556, 389), (0x4B, 667, 722, 722),
    (0x4C, 556, 611, 611), (0x4D, 833, 833, 889), (0x4E, 722, 722, 722), (0x4F, 778, 778, 722),
    (0x50, 667, 667, 556), (0x51, 778, 778, 722), (0x52, 722, 722, 667), (0x53, 667, 667, 556),
    (0x54, 611, 611, 611), (0x55, 722, 722, 722), (0x56, 667, 667, 722), (0x57, 944, 944, 944),
    (0x58, 667, 667, 722), (0x59, 667, 667, 722), (0x5A, 611, 611, 611), (0x5B, 278, 333, 333),
    (0x5C, 278, 278, 278), (0x5D, 278, 333, 333), (0x5E, 469, 584, 469), (0x5F, 556, 556, 500),
    (0x60, 333, 333, 333), (0x61, 556, 556, 444), (0x62, 556, 611, 500), (0x63, 500, 556, 444),
    (0x64, 556, 611, 500), (0x65, 556, 556, 444), (0x66, 278, 333, 333), (0x67, 556, 611, 500),
    (0x68, 556, 611, 500), (0x69, 222, 278, 278), (0x6A, 222, 278, 278), (0x6B, 500, 556, 500),
    (0x6C, 222, 278, 278), (0x6D, 833, 889, 778), (0x6E, 556, 611, 500), (0x6F, 556, 611, 500),
    (0x70, 556, 611, 500), (0x71, 556, 611, 500), (0x72, 333, 389, 333), (0x73, 500, 556, 389),
    (0x74, 278, 333, 278), (0x75, 556, 611, 500), (0x76, 500, 556, 500), (0x77, 722, 778, 722),
    (0x78, 500, 556, 500), (0x79, 500, 556, 500), (0x7A, 500, 500, 444), (0x7B, 334, 389, 480),
    (0x7C, 260, 280, 200), (0x7D, 334, 389, 480), (0x7E, 584, 584, 541), (0xA0, 278, 278, 250),
    (0xA1, 333, 333, 333), (0xA2, 556, 556, 500), (0xA3, 556, 556, 500), (0xA4, 556, 556, 500),
    (0xA5, 556, 556, 500), (0xA6, 260, 280, 200), (0xA7, 556, 556, 500), (0xA8, 333, 333, 333),
    (0xA9, 737, 737, 760), (0xAA, 370, 370, 276), (0xAB, 556, 556, 500), (0xAC, 584, 584, 564),
    (0xAD, 333, 333, 333), (0xAE, 737, 737, 760), (0xAF, 333, 333, 333), (0xB0, 400, 400, 400),
    (0xB1, 584, 584, 564), (0xB2, 333, 333, 300), (0xB3, 333, 333, 300), (0xB4, 333, 333, 333),
    (0xB5, 556, 611, 500), (0xB6, 537, 556, 453), (0xB7, 278, 278, 250), (0xB8, 333, 333, 333),
    (0xB9, 333, 333, 300), (0xBA, 365, 365, 310), (0xBB, 556, 556, 500), (0xBC, 834, 834, 750),
    (0xBD, 834, 834, 750), (0xBE, 834, 834, 750), (0xBF, 611, 611, 444), (0xC0, 667, 722, 722),
    (0xC1, 667, 722, 722), (0xC2, 667, 722, 722), (0xC3, 667, 722, 722), (0xC4, 667, 722, 722),
    (0xC5, 667, 722, 722), (0xC6, 1000, 1000, 889), (0xC7, 722, 722, 667), (0xC8, 667, 667, 611),
    (0xC9, 667, 667, 611), (0xCA, 667, 667, 611), (0xCB, 667, 667, 611), (0xCC, 278, 278, 333),
    (0xCD, 278, 278, 333), (0xCE, 278, 278, 333), (0xCF, 278, 278, 333), (0xD0, 722, 722, 722),
    (0xD1, 722, 722, 722), (0xD2, 778, 778, 722), (0xD3, 778, 778, 722), (0xD4, 778, 778, 722),
    (0xD5, 778, 778, 722), (0xD6, 778, 778, 722), (0xD7, 584, 584, 564), (0xD8, 778, 778, 722),
    (0xD9, 722, 722, 722), (0xDA, 722, 722, 722), (0xDB, 722, 722, 722), (0xDC, 722, 722, 722),
    (0xDD, 667, 667, 722), (0xDE, 667, 667, 556), (0xDF, 611, 611, 500), (0xE0, 556, 556, 444),
    (0xE1, 556, 556, 444), (0xE2, 556, 556, 444), (0xE3, 556, 556, 444), (0xE4, 556, 556, 444),
    (0xE5, 556, 556, 444), (0xE6, 889, 889, 667), (0xE7, 500, 556, 444), (0xE8, 556, 556, 444),
    (0xE9, 556, 556, 444), (0xEA, 556, 556, 444), (0xEB, 556, 556, 444), (0xEC, 278, 278, 278),
    (0xED, 278, 278, 278), (0xEE, 278, 278, 278), (0xEF, 278, 278, 278), (0xF0, 556, 611, 500),
    (0xF1, 556, 611, 500), (0xF2, 556, 611, 500), (0xF3, 556, 611, 500), (0xF4, 556, 611, 500),
    (0xF5, 556, 611, 500), (0xF6, 556, 611, 500), (0xF7, 584, 584, 564), (0xF8, 611, 611, 500),
    (0xF9, 556, 611, 500), (0xFA, 556, 611, 500), (0xFB, 556, 611, 500), (0xFC, 556, 611, 500),
    (0xFD, 500, 556, 500), (0xFE, 556, 611, 500), (0xFF, 500, 556, 500), (0x152, 1000, 1000, 889),
    (0x153, 944, 944, 722), (0x160, 667, 667, 556), (0x161, 500, 556, 389),
    (0x178, 667, 667, 722), (0x17D, 611, 611, 611), (0x17E, 500, 500, 444),
    (0x192, 556, 556, 500), (0x2C6, 333, 333, 333), (0x2DC, 333, 333, 333),
    (0x2013, 556, 556, 500), (0x2014, 1000, 1000, 1000), (0x2018, 222, 278, 333),
    (0x2019, 222, 278, 333), (0x201A, 222, 278, 333), (0x201C, 333, 500, 444),
    (0x201D, 333, 500, 444), (0x201E, 333, 500, 444), (0x2020, 556, 556, 500),
    (0x2021, 556, 556, 500), (0x2022, 350, 350, 350), (0x2026, 1000, 1000, 1000),
    (0x2030, 1000, 1000, 1000), (0x2039, 333, 333, 333), (0x203A, 333, 333, 333),
    (0x20AC, 556, 556, 500), (0x2122, 1000, 1000, 980)
  ]

/-- The symbols and ornaments, which have the same width in every face. -/
def symbolWidths : List (Nat × Nat) :=
  [
    (0x391, 722), (0x392, 667), (0x393, 603), (0x394, 612), (0x395, 611), (0x396, 611),
    (0x397, 722), (0x398, 741), (0x399, 333), (0x39A, 722), (0x39B, 686), (0x39C, 889),
    (0x39D, 722), (0x39E, 645), (0x39F, 722), (0x3A0, 768), (0x3A1, 556), (0x3A3, 592),
    (0x3A4, 611), (0x3A5, 690), (0x3A6, 763), (0x3A7, 722), (0x3A8, 795), (0x3A9, 768),
    (0x3B1, 631), (0x3B2, 549), (0x3B3, 411), (0x3B4, 494), (0x3B5, 439), (0x3B6, 494),
    (0x3B7, 603), (0x3B8, 521), (0x3B9, 329), (0x3BA, 549), (0x3BB, 549), (0x3BC, 576),
    (0x3BD, 521), (0x3BE, 493), (0x3BF, 549), (0x3C0, 549), (0x3C1, 549), (0x3C2, 439),
    (0x3C3, 603), (0x3C4, 439), (0x3C5, 576), (0x3C6, 521), (0x3C7, 549), (0x3C8, 686),
    (0x3C9, 686), (0x3D1, 631), (0x3D2, 620), (0x3D5, 603), (0x3D6, 713), (0x2032, 247),
    (0x2033, 411), (0x2044, 167), (0x2111, 686), (0x2118, 987), (0x211C, 795), (0x2126, 768),
    (0x2135, 823), (0x2190, 987), (0x2191, 603), (0x2192, 987), (0x2193, 603), (0x2194, 1042),
    (0x2195, 458), (0x21B5, 658), (0x21D0, 987), (0x21D1, 603), (0x21D2, 987), (0x21D3, 603),
    (0x21D4, 1042), (0x2200, 713), (0x2202, 494), (0x2203, 549), (0x2205, 823), (0x2206, 612),
    (0x2207, 713), (0x2208, 713), (0x2209, 713), (0x220B, 439), (0x220F, 823), (0x2211, 713),
    (0x2212, 549), (0x2217, 500), (0x221A, 549), (0x221D, 713), (0x221E, 713), (0x2220, 768),
    (0x2227, 603), (0x2228, 603), (0x2229, 768), (0x222A, 768), (0x222B, 274), (0x2234, 863),
    (0x223C, 549), (0x2245, 549), (0x2248, 549), (0x2260, 549), (0x2261, 549), (0x2264, 549),
    (0x2265, 549), (0x2282, 713), (0x2283, 713), (0x2284, 713), (0x2286, 713), (0x2287, 713),
    (0x2295, 768), (0x2297, 768), (0x22A5, 658), (0x22C5, 250), (0x2320, 686), (0x2321, 686),
    (0x2329, 329), (0x232A, 329), (0x2460, 788), (0x2461, 788), (0x2462, 788), (0x2463, 788),
    (0x2464, 788), (0x2465, 788), (0x2466, 788), (0x2467, 788), (0x2468, 788), (0x2469, 788),
    (0x25B2, 892), (0x25BC, 892), (0x25C6, 788), (0x25CA, 494), (0x25CF, 791), (0x25D7, 438),
    (0x2605, 816), (0x260E, 719), (0x261B, 960), (0x261E, 939), (0x2660, 753), (0x2663, 753),
    (0x2665, 753), (0x2666, 753), (0x2701, 974), (0x2702, 961), (0x2703, 974), (0x2704, 980),
    (0x2706, 789), (0x2707, 790), (0x2708, 791), (0x2709, 690), (0x270C, 549), (0x270D, 855),
    (0x270E, 911), (0x270F, 933), (0x2710, 911), (0x2711, 945), (0x2712, 974), (0x2713, 755),
    (0x2714, 846), (0x2715, 762), (0x2717, 571), (0x2718, 677), (0x2719, 763), (0x271A, 760),
    (0x271B, 759), (0x271C, 754), (0x271D, 494), (0x271E, 552), (0x271F, 537), (0x2720, 577),
    (0x2721, 692), (0x2722, 786), (0x2723, 788), (0x2724, 788), (0x2725, 790), (0x2726, 793),
    (0x2727, 794), (0x2729, 823), (0x272A, 789), (0x272B, 841), (0x272C, 823), (0x272D, 833),
    (0x272E, 816), (0x272F, 831), (0x2730, 923), (0x2731, 744), (0x2732, 723), (0x2733, 749),
    (0x2734, 790), (0x2735, 792), (0x2736, 695), (0x2737, 776), (0x2738, 768), (0x2739, 792),
    (0x273A, 759), (0x273B, 707), (0x273C, 708), (0x273D, 682), (0x273E, 701), (0x273F, 826),
    (0x2740, 815), (0x2741, 789), (0x2742, 789), (0x2743, 707), (0x2744, 687), (0x2745, 696),
    (0x2746, 689), (0x2747, 786), (0x2748, 787), (0x2749, 713), (0x274A, 791), (0x274B, 785),
    (0x274D, 873), (0x274F, 762), (0x2750, 762), (0x2751, 759), (0x2752, 759), (0x2756, 784),
    (0x2758, 138), (0x2759, 277), (0x275A, 415), (0x275B, 392), (0x275C, 392), (0x275D, 668),
    (0x275E, 668), (0x2761, 732), (0x2762, 544), (0x2763, 544), (0x2764, 910), (0x2765, 667),
    (0x2766, 760), (0x2767, 760), (0x2768, 390), (0x2769, 390), (0x276A, 317), (0x276B, 317),
    (0x276C, 276), (0x276D, 276), (0x276E, 509), (0x276F, 509), (0x2770, 410), (0x2771, 410),
    (0x2772, 234), (0x2773, 234), (0x2774, 334), (0x2775, 334), (0x2776, 788), (0x2777, 788),
    (0x2778, 788), (0x2779, 788), (0x277A, 788), (0x277B, 788), (0x277C, 788), (0x277D, 788),
    (0x277E, 788), (0x277F, 788), (0x2780, 788), (0x2781, 788), (0x2782, 788), (0x2783, 788),
    (0x2784, 788), (0x2785, 788), (0x2786, 788), (0x2787, 788), (0x2788, 788), (0x2789, 788),
    (0x278A, 788), (0x278B, 788), (0x278C, 788), (0x278D, 788), (0x278E, 788), (0x278F, 788),
    (0x2790, 788), (0x2791, 788), (0x2792, 788), (0x2793, 788), (0x2794, 894), (0x2798, 748),
    (0x2799, 924), (0x279A, 748), (0x279B, 918), (0x279C, 927), (0x279D, 928), (0x279E, 928),
    (0x279F, 834), (0x27A0, 873), (0x27A1, 828), (0x27A2, 924), (0x27A3, 924), (0x27A4, 917),
    (0x27A5, 930), (0x27A6, 931), (0x27A7, 463), (0x27A8, 883), (0x27A9, 836), (0x27AA, 836),
    (0x27AB, 867), (0x27AC, 867), (0x27AD, 696), (0x27AE, 696), (0x27AF, 874), (0x27B1, 874),
    (0x27B2, 760), (0x27B3, 946), (0x27B4, 771), (0x27B5, 865), (0x27B6, 771), (0x27B7, 888),
    (0x27B8, 967), (0x27B9, 888), (0x27BA, 831), (0x27BB, 873), (0x27BC, 927), (0x27BD, 970),
    (0x27BE, 918), (0xF6D9, 790), (0xF6DA, 790), (0xF6DB, 890), (0xF8E5, 500), (0xF8E6, 603),
    (0xF8E7, 1000), (0xF8E8, 790), (0xF8E9, 790), (0xF8EA, 786), (0xF8EB, 384), (0xF8EC, 384),
    (0xF8ED, 384), (0xF8EE, 384), (0xF8EF, 384), (0xF8F0, 384), (0xF8F1, 494), (0xF8F2, 494),
    (0xF8F3, 494), (0xF8F4, 494), (0xF8F5, 686), (0xF8F6, 384), (0xF8F7, 384), (0xF8F8, 384),
    (0xF8F9, 384), (0xF8FA, 384), (0xF8FB, 384), (0xF8FC, 494), (0xF8FD, 494), (0xF8FE, 494)
  ]

/-- The width of the mark that stands for a character without a form. -/
def missingWidth : Nat := 761

end Prepress.Font
