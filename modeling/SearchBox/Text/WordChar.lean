import SearchBox.Text.Printable

/- Characters of words: letters, marks that count as letters, digits and other numerals of all scripts, and
   the underscore. -/
namespace SearchBox

/-- Ends of the runs above ASCII in which every visible character is one of a word, in order. -/
def wordRuns : List (Nat × Nat) :=
  [(170, 170), (178, 179), (181, 181), (185, 186), (188, 190), (192, 214), (216, 246), (248, 705), (710, 721),
    (736, 740), (748, 748), (750, 750), (880, 884), (886, 893), (895, 895), (902, 902), (904, 1013),
    (1015, 1153), (1162, 1369), (1376, 1416), (1488, 1522), (1568, 1610), (1632, 1641), (1646, 1647),
    (1649, 1747), (1749, 1749), (1765, 1766), (1774, 1788), (1791, 1791), (1808, 1808), (1810, 1839),
    (1869, 1957), (1969, 2026), (2036, 2037), (2042, 2042), (2048, 2069), (2074, 2074), (2084, 2084),
    (2088, 2088), (2112, 2136), (2144, 2183), (2185, 2190), (2208, 2249), (2308, 2361), (2365, 2365),
    (2384, 2384), (2392, 2401), (2406, 2415), (2417, 2432), (2437, 2489), (2493, 2493), (2510, 2510),
    (2524, 2529), (2534, 2545), (2548, 2553), (2556, 2556), (2565, 2617), (2649, 2671), (2674, 2676),
    (2693, 2745), (2749, 2749), (2768, 2785), (2790, 2799), (2809, 2809), (2821, 2873), (2877, 2877),
    (2908, 2913), (2918, 2927), (2929, 2935), (2947, 3001), (3024, 3024), (3046, 3058), (3077, 3129),
    (3133, 3133), (3160, 3169), (3174, 3183), (3192, 3198), (3200, 3200), (3205, 3257), (3261, 3261),
    (3293, 3297), (3302, 3314), (3332, 3386), (3389, 3389), (3406, 3406), (3412, 3414), (3416, 3425),
    (3430, 3448), (3450, 3455), (3461, 3526), (3558, 3567), (3585, 3632), (3634, 3635), (3648, 3654),
    (3664, 3673), (3713, 3760), (3762, 3763), (3773, 3782), (3792, 3840), (3872, 3891), (3904, 3948),
    (3976, 3980), (4096, 4138), (4159, 4169), (4176, 4181), (4186, 4189), (4193, 4193), (4197, 4198),
    (4206, 4208), (4213, 4225), (4238, 4238), (4240, 4249), (4256, 4346), (4348, 4954), (4969, 5007),
    (5024, 5117), (5121, 5740), (5743, 5786), (5792, 5866), (5870, 5905), (5919, 5937), (5952, 5969),
    (5984, 6000), (6016, 6067), (6103, 6103), (6108, 6108), (6112, 6137), (6160, 6276), (6279, 6312),
    (6314, 6430), (6470, 6618), (6656, 6678), (6688, 6740), (6784, 6809), (6823, 6823), (6917, 6963),
    (6981, 7001), (7043, 7072), (7086, 7141), (7168, 7203), (7232, 7293), (7296, 7359), (7401, 7404),
    (7406, 7411), (7413, 7414), (7418, 7615), (7680, 8124), (8126, 8126), (8130, 8140), (8144, 8155),
    (8160, 8172), (8178, 8188), (8304, 8313), (8319, 8329), (8336, 8348), (8450, 8450), (8455, 8455),
    (8458, 8467), (8469, 8469), (8473, 8477), (8484, 8484), (8486, 8486), (8488, 8488), (8490, 8493),
    (8495, 8505), (8508, 8511), (8517, 8521), (8526, 8526), (8528, 8585), (9312, 9371), (9450, 9471),
    (10102, 10131), (11264, 11492), (11499, 11502), (11506, 11507), (11517, 11517), (11520, 11631),
    (11648, 11742), (11823, 11823), (12293, 12295), (12321, 12329), (12337, 12341), (12344, 12348),
    (12353, 12438), (12445, 12447), (12449, 12538), (12540, 12686), (12690, 12693), (12704, 12735),
    (12784, 12799), (12832, 12841), (12872, 12879), (12881, 12895), (12928, 12937), (12977, 12991),
    (13312, 19903), (19968, 42124), (42192, 42237), (42240, 42508), (42512, 42606), (42623, 42653),
    (42656, 42735), (42775, 42783), (42786, 42888), (42891, 43009), (43011, 43013), (43015, 43018),
    (43020, 43042), (43056, 43061), (43072, 43123), (43138, 43187), (43216, 43225), (43250, 43255),
    (43259, 43259), (43261, 43262), (43264, 43301), (43312, 43334), (43360, 43388), (43396, 43442),
    (43471, 43481), (43488, 43492), (43494, 43560), (43584, 43586), (43588, 43595), (43600, 43609),
    (43616, 43638), (43642, 43642), (43646, 43695), (43697, 43697), (43701, 43702), (43705, 43709),
    (43712, 43712), (43714, 43741), (43744, 43754), (43762, 43764), (43777, 43866), (43868, 43881),
    (43888, 44002), (44016, 64285), (64287, 64296), (64298, 64433), (64467, 64829), (64848, 64967),
    (65008, 65019), (65136, 65276), (65296, 65305), (65313, 65338), (65345, 65370), (65382, 65500),
    (65536, 65786), (65799, 65843), (65856, 65912), (65930, 65931), (66176, 66256), (66273, 66421),
    (66432, 66461), (66464, 66511), (66513, 66915), (66928, 67669), (67672, 67702), (67705, 67867),
    (67872, 67897), (67968, 68096), (68112, 68149), (68160, 68168), (68192, 68222), (68224, 68295),
    (68297, 68324), (68331, 68335), (68352, 68405), (68416, 68497), (68521, 68899), (68912, 69289),
    (69296, 69445), (69457, 69460), (69488, 69505), (69552, 69622), (69635, 69687), (69714, 69743),
    (69745, 69746), (69749, 69749), (69763, 69807), (69840, 69881), (69891, 69926), (69942, 69951),
    (69956, 69956), (69959, 70002), (70006, 70006), (70019, 70066), (70081, 70084), (70096, 70106),
    (70108, 70108), (70113, 70187), (70272, 70312), (70320, 70366), (70384, 70393), (70405, 70457),
    (70461, 70461), (70480, 70480), (70493, 70497), (70656, 70708), (70727, 70730), (70736, 70745),
    (70751, 70831), (70852, 70853), (70855, 71086), (71128, 71131), (71168, 71215), (71236, 71257),
    (71296, 71338), (71352, 71352), (71360, 71450), (71472, 71483), (71488, 71723), (71840, 71983),
    (71999, 71999), (72001, 72001), (72016, 72144), (72161, 72161), (72163, 72163), (72192, 72192),
    (72203, 72242), (72250, 72250), (72272, 72272), (72284, 72329), (72349, 72349), (72368, 72750),
    (72768, 72768), (72784, 72812), (72818, 72847), (72960, 73008), (73030, 73030), (73040, 73097),
    (73112, 73458), (73648, 73684), (73728, 74862), (74880, 77808), (77824, 92777), (92784, 92909),
    (92928, 92975), (92992, 92995), (93008, 93846), (93952, 94026), (94032, 94032), (94099, 94177),
    (94179, 94179), (94208, 113817), (119520, 119539), (119648, 120512), (120514, 120538), (120540, 120570),
    (120572, 120596), (120598, 120628), (120630, 120654), (120656, 120686), (120688, 120712),
    (120714, 120744), (120746, 120770), (120772, 120831), (122624, 122654), (123136, 123180),
    (123191, 123214), (123536, 123565), (123584, 123627), (123632, 123641), (124896, 125135),
    (125184, 125251), (125259, 125273), (126065, 126123), (126125, 126127), (126129, 126253),
    (126255, 126651), (127232, 127244), (130032, 201546)]

def isWordChar (c : Char) : Bool :=
  if c.toNat < 128 then c.isAlphanum || c = '_'
  else isPrintable c && wordRuns.any fun run => run.1 ≤ c.toNat && c.toNat ≤ run.2

end SearchBox
