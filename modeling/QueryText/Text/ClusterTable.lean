import QueryText.Text.CodeRanges

namespace QueryText.Text.ClusterTable

def extendRanges : CodeRanges :=
  [(768, 879), (1155, 1161), (1425, 1469), (1471, 1471), (1473, 1474), (1476, 1477), (1479,
    1479), (1552, 1562), (1611, 1631), (1648, 1648), (1750, 1756), (1759, 1764), (1767, 1768),
    (1770, 1773), (1809, 1809), (1840, 1866), (1958, 1968), (2027, 2035), (2045, 2045), (2070,
    2073), (2075, 2083), (2085, 2087), (2089, 2093), (2137, 2139), (2199, 2207), (2250, 2273),
    (2275, 2306), (2362, 2362), (2364, 2364), (2369, 2376), (2381, 2381), (2385, 2391), (2402,
    2403), (2433, 2433), (2492, 2492), (2494, 2494), (2497, 2500), (2509, 2509), (2519, 2519),
    (2530, 2531), (2558, 2558), (2561, 2562), (2620, 2620), (2625, 2626), (2631, 2632), (2635,
    2637), (2641, 2641), (2672, 2673), (2677, 2677), (2689, 2690), (2748, 2748), (2753, 2757),
    (2759, 2760), (2765, 2765), (2786, 2787), (2810, 2815), (2817, 2817), (2876, 2876), (2878,
    2879), (2881, 2884), (2893, 2893), (2901, 2903), (2914, 2915), (2946, 2946), (3006, 3006),
    (3008, 3008), (3021, 3021), (3031, 3031), (3072, 3072), (3076, 3076), (3132, 3132), (3134,
    3136), (3142, 3144), (3146, 3149), (3157, 3158), (3170, 3171), (3201, 3201), (3260, 3260),
    (3263, 3264), (3266, 3266), (3270, 3272), (3274, 3277), (3285, 3286), (3298, 3299), (3328,
    3329), (3387, 3388), (3390, 3390), (3393, 3396), (3405, 3405), (3415, 3415), (3426, 3427),
    (3457, 3457), (3530, 3530), (3535, 3535), (3538, 3540), (3542, 3542), (3551, 3551), (3633,
    3633), (3636, 3642), (3655, 3662), (3761, 3761), (3764, 3772), (3784, 3790), (3864, 3865),
    (3893, 3893), (3895, 3895), (3897, 3897), (3953, 3966), (3968, 3972), (3974, 3975), (3981,
    3991), (3993, 4028), (4038, 4038), (4141, 4144), (4146, 4151), (4153, 4154), (4157, 4158),
    (4184, 4185), (4190, 4192), (4209, 4212), (4226, 4226), (4229, 4230), (4237, 4237), (4253,
    4253), (4957, 4959), (5906, 5909), (5938, 5940), (5970, 5971), (6002, 6003), (6068, 6069),
    (6071, 6077), (6086, 6086), (6089, 6099), (6109, 6109), (6155, 6157), (6159, 6159), (6277,
    6278), (6313, 6313), (6432, 6434), (6439, 6440), (6450, 6450), (6457, 6459), (6679, 6680),
    (6683, 6683), (6742, 6742), (6744, 6750), (6752, 6752), (6754, 6754), (6757, 6764), (6771,
    6780), (6783, 6783), (6832, 6877), (6880, 6891), (6912, 6915), (6964, 6973), (6978, 6980),
    (7019, 7027), (7040, 7041), (7074, 7077), (7080, 7085), (7142, 7142), (7144, 7145), (7149,
    7149), (7151, 7155), (7212, 7219), (7222, 7223), (7376, 7378), (7380, 7392), (7394, 7400),
    (7405, 7405), (7412, 7412), (7416, 7417), (7616, 7679), (8204, 8204), (8400, 8432), (11503,
    11505), (11647, 11647), (11744, 11775), (12330, 12335), (12441, 12442), (42607, 42610),
    (42612, 42621), (42654, 42655), (42736, 42737), (43010, 43010), (43014, 43014), (43019,
    43019), (43045, 43046), (43052, 43052), (43204, 43205), (43232, 43249), (43263, 43263),
    (43302, 43309), (43335, 43345), (43347, 43347), (43392, 43394), (43443, 43443), (43446,
    43449), (43452, 43453), (43456, 43456), (43493, 43493), (43561, 43566), (43569, 43570),
    (43573, 43574), (43587, 43587), (43596, 43596), (43644, 43644), (43696, 43696), (43698,
    43700), (43703, 43704), (43710, 43711), (43713, 43713), (43756, 43757), (43766, 43766),
    (44005, 44005), (44008, 44008), (44013, 44013), (64286, 64286), (65024, 65039), (65056,
    65071), (65438, 65439), (66045, 66045), (66272, 66272), (66422, 66426), (68097, 68099),
    (68101, 68102), (68108, 68111), (68152, 68154), (68159, 68159), (68325, 68326), (68900,
    68903), (68969, 68973), (69291, 69292), (69370, 69375), (69446, 69456), (69506, 69509),
    (69633, 69633), (69688, 69702), (69744, 69744), (69747, 69748), (69759, 69761), (69811,
    69814), (69817, 69818), (69826, 69826), (69888, 69890), (69927, 69931), (69933, 69940),
    (70003, 70003), (70016, 70017), (70070, 70078), (70080, 70080), (70089, 70092), (70095,
    70095), (70191, 70193), (70196, 70199), (70206, 70206), (70209, 70209), (70367, 70367),
    (70371, 70378), (70400, 70401), (70459, 70460), (70462, 70462), (70464, 70464), (70477,
    70477), (70487, 70487), (70502, 70508), (70512, 70516), (70584, 70584), (70587, 70592),
    (70594, 70594), (70597, 70597), (70599, 70601), (70606, 70608), (70610, 70610), (70625,
    70626), (70712, 70719), (70722, 70724), (70726, 70726), (70750, 70750), (70832, 70832),
    (70835, 70840), (70842, 70842), (70845, 70845), (70847, 70848), (70850, 70851), (71087,
    71087), (71090, 71093), (71100, 71101), (71103, 71104), (71132, 71133), (71219, 71226),
    (71229, 71229), (71231, 71232), (71339, 71339), (71341, 71341), (71344, 71351), (71453,
    71453), (71455, 71455), (71458, 71461), (71463, 71467), (71727, 71735), (71737, 71738),
    (71984, 71984), (71995, 71998), (72003, 72003), (72148, 72151), (72154, 72155), (72160,
    72160), (72193, 72202), (72243, 72248), (72251, 72254), (72263, 72263), (72273, 72278),
    (72281, 72283), (72330, 72342), (72344, 72345), (72544, 72544), (72546, 72548), (72550,
    72550), (72752, 72758), (72760, 72765), (72767, 72767), (72850, 72871), (72874, 72880),
    (72882, 72883), (72885, 72886), (73009, 73014), (73018, 73018), (73020, 73021), (73023,
    73029), (73031, 73031), (73104, 73105), (73109, 73109), (73111, 73111), (73459, 73460),
    (73472, 73473), (73526, 73530), (73536, 73538), (73562, 73562), (78912, 78912), (78919,
    78933), (90398, 90409), (90413, 90415), (92912, 92916), (92976, 92982), (94031, 94031),
    (94095, 94098), (94180, 94180), (94192, 94193), (113821, 113822), (118528, 118573), (118576,
    118598), (119141, 119145), (119149, 119154), (119163, 119170), (119173, 119179), (119210,
    119213), (119362, 119364), (121344, 121398), (121403, 121452), (121461, 121461), (121476,
    121476), (121499, 121503), (121505, 121519), (122880, 122886), (122888, 122904), (122907,
    122913), (122915, 122916), (122918, 122922), (123023, 123023), (123184, 123190), (123566,
    123566), (123628, 123631), (124140, 124143), (124398, 124399), (124643, 124643), (124646,
    124646), (124654, 124655), (124661, 124661), (125136, 125142), (125252, 125258), (917536,
    917631), (917760, 917999)]

def spacingRanges : CodeRanges :=
  [(2307, 2307), (2363, 2363), (2366, 2368), (2377, 2380), (2382, 2383), (2434, 2435), (2495,
    2496), (2503, 2504), (2507, 2508), (2563, 2563), (2622, 2624), (2691, 2691), (2750, 2752),
    (2761, 2761), (2763, 2764), (2818, 2819), (2880, 2880), (2887, 2888), (2891, 2892), (3007,
    3007), (3009, 3010), (3014, 3016), (3018, 3020), (3073, 3075), (3137, 3140), (3202, 3203),
    (3262, 3262), (3265, 3265), (3267, 3268), (3315, 3315), (3330, 3331), (3391, 3392), (3398,
    3400), (3402, 3404), (3458, 3459), (3536, 3537), (3544, 3550), (3570, 3571), (3635, 3635),
    (3763, 3763), (3902, 3903), (3967, 3967), (4145, 4145), (4155, 4156), (4182, 4183), (4228,
    4228), (6070, 6070), (6078, 6085), (6087, 6088), (6435, 6438), (6441, 6443), (6448, 6449),
    (6451, 6456), (6681, 6682), (6741, 6741), (6743, 6743), (6765, 6770), (6916, 6916), (6974,
    6977), (7042, 7042), (7073, 7073), (7078, 7079), (7143, 7143), (7146, 7148), (7150, 7150),
    (7204, 7211), (7220, 7221), (7393, 7393), (7415, 7415), (43043, 43044), (43047, 43047),
    (43136, 43137), (43188, 43203), (43346, 43346), (43395, 43395), (43444, 43445), (43450,
    43451), (43454, 43455), (43567, 43568), (43571, 43572), (43597, 43597), (43755, 43755),
    (43758, 43759), (43765, 43765), (44003, 44004), (44006, 44007), (44009, 44010), (44012,
    44012), (69632, 69632), (69634, 69634), (69762, 69762), (69808, 69810), (69815, 69816),
    (69932, 69932), (69957, 69958), (70018, 70018), (70067, 70069), (70079, 70079), (70094,
    70094), (70188, 70190), (70194, 70195), (70368, 70370), (70402, 70403), (70463, 70463),
    (70465, 70468), (70471, 70472), (70475, 70476), (70498, 70499), (70585, 70586), (70602,
    70602), (70604, 70605), (70709, 70711), (70720, 70721), (70725, 70725), (70833, 70834),
    (70841, 70841), (70843, 70844), (70846, 70846), (70849, 70849), (71088, 71089), (71096,
    71099), (71102, 71102), (71216, 71218), (71227, 71228), (71230, 71230), (71340, 71340),
    (71342, 71343), (71454, 71454), (71462, 71462), (71724, 71726), (71736, 71736), (71985,
    71989), (71991, 71992), (72000, 72000), (72002, 72002), (72145, 72147), (72156, 72159),
    (72164, 72164), (72249, 72249), (72279, 72280), (72343, 72343), (72545, 72545), (72549,
    72549), (72551, 72551), (72751, 72751), (72766, 72766), (72873, 72873), (72881, 72881),
    (72884, 72884), (73098, 73102), (73107, 73108), (73110, 73110), (73461, 73462), (73475,
    73475), (73524, 73525), (73534, 73535), (90410, 90412), (94033, 94087)]

def leadingRanges : CodeRanges :=
  [(1536, 1541), (1757, 1757), (1807, 1807), (2192, 2193), (2274, 2274), (3406, 3406), (69821,
    69821), (69837, 69837), (70082, 70083), (70609, 70609), (71999, 71999), (72001, 72001),
    (72324, 72329), (73030, 73030), (73474, 73474)]

/-- Controls, separators of lines, and format characters that stand alone. -/
def controlRanges : CodeRanges :=
  [(128, 159), (173, 173), (1564, 1564), (6158, 6158), (8203, 8203), (8206, 8207), (8232, 8238),
    (8288, 8303), (65279, 65279), (65520, 65531), (78896, 78911), (113824, 113827), (119155,
    119162), (917504, 917535), (917632, 917759), (918000, 921599)]

def pictographRanges : CodeRanges :=
  [(169, 169), (174, 174), (8252, 8252), (8265, 8265), (8482, 8482), (8505, 8505), (8596, 8601),
    (8617, 8618), (8986, 8987), (9000, 9000), (9167, 9167), (9193, 9203), (9208, 9210), (9410,
    9410), (9642, 9643), (9654, 9654), (9664, 9664), (9723, 9726), (9728, 9732), (9742, 9742),
    (9745, 9745), (9748, 9749), (9752, 9752), (9757, 9757), (9760, 9760), (9762, 9763), (9766,
    9766), (9770, 9770), (9774, 9775), (9784, 9786), (9792, 9792), (9794, 9794), (9800, 9811),
    (9823, 9824), (9827, 9827), (9829, 9830), (9832, 9832), (9851, 9851), (9854, 9855), (9874,
    9879), (9881, 9881), (9883, 9884), (9888, 9889), (9895, 9895), (9898, 9899), (9904, 9905),
    (9917, 9918), (9924, 9925), (9928, 9928), (9934, 9935), (9937, 9937), (9939, 9940), (9961,
    9962), (9968, 9973), (9975, 9978), (9981, 9981), (9986, 9986), (9989, 9989), (9992, 9997),
    (9999, 9999), (10002, 10002), (10004, 10004), (10006, 10006), (10013, 10013), (10017, 10017),
    (10024, 10024), (10035, 10036), (10052, 10052), (10055, 10055), (10060, 10060), (10062,
    10062), (10067, 10069), (10071, 10071), (10083, 10084), (10133, 10135), (10145, 10145),
    (10160, 10160), (10175, 10175), (10548, 10549), (11013, 11015), (11035, 11036), (11088,
    11088), (11093, 11093), (12336, 12336), (12349, 12349), (12951, 12951), (12953, 12953),
    (126980, 126980), (127020, 127023), (127124, 127135), (127151, 127152), (127168, 127168),
    (127183, 127184), (127222, 127231), (127344, 127345), (127358, 127359), (127374, 127374),
    (127377, 127386), (127406, 127461), (127489, 127503), (127514, 127514), (127535, 127535),
    (127538, 127546), (127548, 127551), (127561, 127583), (127590, 127777), (127780, 127891),
    (127894, 127895), (127897, 127899), (127902, 127984), (127987, 127989), (127991, 127994),
    (128000, 128253), (128255, 128317), (128329, 128334), (128336, 128359), (128367, 128368),
    (128371, 128378), (128391, 128391), (128394, 128397), (128400, 128400), (128405, 128406),
    (128420, 128421), (128424, 128424), (128433, 128434), (128444, 128444), (128450, 128452),
    (128465, 128467), (128476, 128478), (128481, 128481), (128483, 128483), (128488, 128488),
    (128495, 128495), (128499, 128499), (128506, 128591), (128640, 128709), (128715, 128722),
    (128725, 128741), (128745, 128745), (128747, 128752), (128755, 128767), (128986, 129023),
    (129036, 129039), (129096, 129103), (129114, 129119), (129160, 129167), (129198, 129199),
    (129212, 129215), (129218, 129231), (129241, 129279), (129292, 129338), (129340, 129349),
    (129351, 129535), (129624, 129631), (129646, 129791), (130048, 131069)]

def consonantRanges : CodeRanges :=
  [(2325, 2361), (2392, 2399), (2424, 2431), (2453, 2472), (2474, 2480), (2482, 2482), (2486,
    2489), (2524, 2525), (2527, 2527), (2544, 2545), (2709, 2728), (2730, 2736), (2738, 2739),
    (2741, 2745), (2809, 2809), (2837, 2856), (2858, 2864), (2866, 2867), (2869, 2873), (2908,
    2909), (2911, 2911), (2929, 2929), (3093, 3112), (3114, 3129), (3160, 3162), (3349, 3386),
    (4096, 4138), (4159, 4159), (4176, 4181), (4186, 4189), (4193, 4193), (4197, 4198), (4206,
    4208), (4213, 4225), (4238, 4238), (6016, 6067), (6688, 6740), (6923, 6924), (6931, 6963),
    (6981, 6988), (7043, 7072), (7086, 7087), (7099, 7101), (43401, 43403), (43407, 43442),
    (43488, 43492), (43495, 43503), (43514, 43518), (43616, 43631), (43633, 43635), (43642,
    43642), (43646, 43647), (43744, 43754), (43968, 43994), (68096, 68096), (68112, 68115),
    (68117, 68119), (68121, 68149), (69891, 69926), (69956, 69956), (69959, 69959), (70528,
    70537), (70539, 70539), (70542, 70542), (70544, 70581), (71936, 71942), (71945, 71945),
    (71948, 71955), (71957, 71958), (71960, 71983), (72192, 72192), (72203, 72242), (72272,
    72272), (72284, 72323), (73476, 73488), (73490, 73523)]

/-- Signs that link the consonant before them to the one behind. -/
def linkerRanges : CodeRanges :=
  [(2381, 2381), (2509, 2509), (2765, 2765), (2893, 2893), (3149, 3149), (3405, 3405), (4153,
    4153), (6098, 6098), (6752, 6752), (6980, 6980), (7083, 7083), (43456, 43456), (43766, 43766),
    (68159, 68159), (69939, 69939), (70608, 70608), (71998, 71998), (72263, 72263), (72345,
    72345), (73538, 73538)]

end QueryText.Text.ClusterTable
