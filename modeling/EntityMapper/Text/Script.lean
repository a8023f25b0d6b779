import EntityMapper.Text.Decimal
import EntityMapper.Text.Split

/-!
# Scripts

The property Script, and the properties Alphabetic, Lowercase and Uppercase, as sets of code points
that are found by name. In the tables a set is written as its names, then its ranges: the first code
point, and after a plus sign how many there are when there are several.
-/

namespace EntityMapper.Text

/-- A set of code points with its names. -/
structure NamedSet where
  names : List String := []
  /-- The first code point of each range and the number of those in it. -/
  ranges : List (Nat × Nat) := []
deriving Repr

def scriptWords : List String := [
  "adlm adlam 125184+76 125264+10 125278+2 aghb caucasianalbanian 66864+52 66927 ahom 71424+27",
  "71453+15 71472+23 arab arabic 1536+5 1542+6 1549+14 1564+3 1568+32 1601+10 1622+26 1649+108",
  "1758+34 1872+48 2160+31 2192+2 2200+74 2275+29 64336+115 64467+363 64832+80 64914+54 64975",
  "65008+16 65136+5 65142+135 69216+31 69373+3 126464+4 126469+27 126497+2 126500 126503 126505+10",
  "126516+4 126521 126523 126530 126535 126537 126539 126541+3 126545+2 126548 126551 126553 126555",
  "126557 126559 126561+2 126564 126567+4 126572+7 126580+4 126585+4 126590 126592+10 126603+17",
  "126625+3 126629+5 126635+17 126704+2 armi imperialaramaic 67648+22 67671+9 armn armenian 1329+38",
  "1369+50 1421+3 64275+5 avst avestan 68352+54 68409+7 bali balinese 6912+77 6992+47 bamu bamum",
  "42656+88 92160+569 bass bassavah 92880+30 92912+6 batk batak 7104+52 7164+4 beng bengali 2432+4",
  "2437+8 2447+2 2451+22 2474+7 2482 2486+4 2492+9 2503+2 2507+4 2519 2524+2 2527+5 2534+25 bhks",
  "bhaiksuki 72704+9 72714+45 72760+14 72784+29 bopo bopomofo 746+2 12549+43 12704+32 brah brahmi",
  "69632+78 69714+36 69759 brai braille 10240+256 bugi buginese 6656+28 6686+2 buhd buhid 5952+20",
  "cakm chakma 69888+53 69942+18 cans canadianaboriginal 5120+640 6320+70 72368+16 cari carian",
  "66208+49 cham 43520+55 43584+14 43600+10 43612+4 cher cherokee 5024+86 5112+6 43888+80 chrs",
  "chorasmian 69552+28 copt coptic qaac 994+14 11392+116 11513+7 cpmn cyprominoan 77712+99 cprt",
  "cypriot 67584+6 67592 67594+44 67639+2 67644 67647 cyrl cyrillic 1024+133 1159+169 7296+9 7467",
  "7544 11744+32 42560+96 65070+2 122928+62 123023 deva devanagari 2304+81 2389+15 2406+26 43232+32",
  "72448+10 diak divesakuru 71936+7 71945 71948+8 71957+2 71960+30 71991+2 71995+12 72016+10 dogr",
  "dogra 71680+60 dsrt deseret 66560+80 dupl duployan 113664+107 113776+13 113792+9 113808+10",
  "113820+4 egyp egyptianhieroglyphs 77824+1110 elba elbasan 66816+40 elym elymaic 69600+23 ethi",
  "ethiopic 4608+73 4682+4 4688+7 4696 4698+4 4704+41 4746+4 4752+33 4786+4 4792+7 4800 4802+4",
  "4808+15 4824+57 4882+4 4888+67 4957+32 4992+26 11648+23 11680+7 11688+7 11696+7 11704+7 11712+7",
  "11720+7 11728+7 11736+7 43777+6 43785+6 43793+6 43808+7 43816+7 124896+7 124904+4 124909+2",
  "124912+15 geor georgian 4256+38 4295 4301 4304+43 4348+4 7312+43 7357+3 11520+38 11559 11565",
  "glag glagolitic 11264+96 122880+7 122888+17 122907+7 122915+2 122918+5 gong gunjalagondi 73056+6",
  "73063+2 73066+37 73104+2 73107+6 73120+10 gonm masaramgondi 72960+7 72968+2 72971+44 73018",
  "73020+2 73023+9 73040+10 goth gothic 66352+27 gran grantha 70400+4 70405+8 70415+2 70419+22",
  "70442+7 70450+2 70453+5 70460+9 70471+2 70475+3 70480 70487 70493+7 70502+7 70512+5 grek greek",
  "880+4 885+3 890+4 895 900 902 904+3 908 910+20 931+63 1008+16 7462+5 7517+5 7526+5 7615 7936+22",
  "7960+6 7968+38 8008+6 8016+8 8025 8027 8029 8031+31 8064+53 8118+15 8134+14 8150+6 8157+19",
  "8178+3 8182+9 8486 43877 65856+79 65952 119296+70 gujr gujarati 2689+3 2693+9 2703+3 2707+22",
  "2730+7 2738+2 2741+5 2748+10 2759+3 2763+3 2768 2784+4 2790+12 2809+7 guru gurmukhi 2561+3",
  "2565+6 2575+2 2579+22 2602+7 2610+2 2613+2 2616+2 2620 2622+5 2631+2 2635+3 2641 2649+4 2654",
  "2662+17 hang hangul 4352+256 12334+2 12593+94 12800+31 12896+31 43360+29 44032+11172 55216+23",
  "55243+49 65440+31 65474+6 65482+6 65490+6 65498+3 hani han 11904+26 11931+89 12032+214 12293",
  "12295 12321+9 12344+4 13312+6592 19968+20992 63744+366 64112+106 94178+2 94192+2 131072+42720",
  "173824+4154 177984+222 178208+5762 183984+7473 194560+542 196608+4939 201552+4192 hano hanunoo",
  "5920+21 hatr hatran 67808+19 67828+2 67835+5 hebr hebrew 1425+55 1488+27 1519+6 64285+26 64312+5",
  "64318 64320+2 64323+2 64326+10 hira hiragana 12353+86 12445+3 110593+287 110898 110928+3 127488",
  "hluw anatolianhieroglyphs 82944+583 hmng pahawhhmong 92928+70 93008+10 93019+7 93027+21 93053+19",
  "hmnp nyiakengpuachuehmong 123136+45 123184+14 123200+10 123214+2 hung oldhungarian 68736+51",
  "68800+51 68858+6 ital olditalic 66304+36 66349+3 java javanese 43392+78 43472+10 43486+2 kali",
  "kayahli 43264+46 43311 kana katakana 12449+90 12541+3 12784+16 13008+47 13056+88 65382+10",
  "65393+45 110576+4 110581+7 110589+2 110592 110880+3 110933 110948+4 kawi 73472+17 73490+41",
  "73534+28 khar kharoshthi 68096+4 68101+2 68108+8 68117+3 68121+29 68152+3 68159+10 68176+9 khmr",
  "khmer 6016+94 6112+10 6128+10 6624+32 khoj khojki 70144+18 70163+47 kits khitansmallscript 94180",
  "101120+470 knda kannada 3200+13 3214+3 3218+23 3242+10 3253+5 3260+9 3270+3 3274+4 3285+2 3293+2",
  "3296+4 3302+10 3313+3 kthi kaithi 69760+67 69837 lana taitham 6688+63 6752+29 6783+11 6800+10",
  "6816+14 laoo lao 3713+2 3716 3718+5 3724+24 3749 3751+23 3776+5 3782 3784+7 3792+10 3804+4 latn",
  "latin 65+26 97+26 170 186 192+23 216+31 248+449 736+5 7424+38 7468+49 7522+4 7531+13 7545+70",
  "7680+256 8305 8319 8336+13 8490+2 8498 8526 8544+41 11360+32 42786+102 42891+64 42960+2 42963",
  "42965+5 42994+14 43824+43 43868+9 43878+4 64256+7 65313+26 65345+26 67456+6 67463+42 67506+9",
  "122624+31 122661+6 lepc lepcha 7168+56 7227+15 7245+3 limb limbu 6400+31 6432+12 6448+12 6464",
  "6468+12 lina lineara 67072+311 67392+22 67424+8 linb linearb 65536+12 65549+26 65576+19 65596+2",
  "65599+15 65616+14 65664+123 lisu 42192+48 73648 lyci lycian 66176+29 lydi lydian 67872+26 67903",
  "mahj mahajani 69968+39 maka makasar 73440+25 mand mandaic 2112+28 2142 mani manichaean 68288+39",
  "68331+12 marc marchen 72816+32 72850+22 72873+14 medf medefaidrin 93760+91 mend mendekikakui",
  "124928+197 125127+16 merc meroiticcursive 68000+24 68028+20 68050+46 mero meroitichieroglyphs",
  "67968+32 mlym malayalam 3328+13 3342+3 3346+51 3398+3 3402+6 3412+16 3430+26 modi 71168+69",
  "71248+10 mong mongolian 6144+2 6148 6150+20 6176+89 6272+43 71264+13 mroo mro 92736+31 92768+10",
  "92782+2 mtei meeteimayek 43744+23 43968+46 44016+10 mult multani 70272+7 70280 70282+4 70287+15",
  "70303+11 mymr myanmar 4096+160 43488+31 43616+32 nagm nagmundari 124112+42 nand nandinagari",
  "72096+8 72106+46 72154+11 narb oldnortharabian 68224+32 nbat nabataean 67712+31 67751+9 newa",
  "70656+92 70749+5 nkoo nko 1984+59 2045+3 nshu nushu 94177 110960+396 ogam ogham 5760+29 olck",
  "olchiki 7248+48 orkh oldturkic 68608+73 orya oriya 2817+3 2821+8 2831+2 2835+22 2858+7 2866+2",
  "2869+5 2876+9 2887+2 2891+3 2901+3 2908+2 2911+5 2918+18 osge osage 66736+36 66776+36 osma",
  "osmanya 66688+30 66720+10 ougr olduyghur 69488+26 palm palmyrene 67680+32 pauc paucinhau",
  "72384+57 perm oldpermic 66384+43 phag phagspa 43072+56 phli inscriptionalpahlavi 68448+19",
  "68472+8 phlp psalterpahlavi 68480+18 68505+4 68521+7 phnx phoenician 67840+28 67871 plrd miao",
  "93952+75 94031+57 94095+17 prti inscriptionalparthian 68416+22 68440+8 rjng rejang 43312+36",
  "43359 rohg hanifirohingya 68864+40 68912+10 runr runic 5792+75 5870+11 samr samaritan 2048+46",
  "2096+15 sarb oldsoutharabian 68192+32 saur saurashtra 43136+70 43214+12 sgnw signwriting",
  "120832+652 121499+5 121505+15 shaw shavian 66640+48 shrd sharada 70016+96 sidd siddham 71040+54",
  "71096+38 sind khudawadi 70320+59 70384+10 sinh sinhala 3457+3 3461+18 3482+24 3507+9 3517 3520+7",
  "3530 3535+6 3542 3544+8 3558+10 3570+3 70113+20 sogd sogdian 69424+42 sogo oldsogdian 69376+40",
  "sora sorasompeng 69840+25 69872+10 soyo soyombo 72272+83 sund sundanese 7040+64 7360+8 sylo",
  "sylotinagri 43008+45 syrc syriac 1792+14 1807+60 1869+3 2144+11 tagb tagbanwa 5984+13 5998+3",
  "6002+2 takr takri 71296+58 71360+10 tale taile 6480+30 6512+5 talu newtailue 6528+44 6576+26",
  "6608+11 6622+2 taml tamil 2946+2 2949+6 2958+3 2962+4 2969+2 2972 2974+2 2979+2 2984+3 2990+12",
  "3006+5 3014+3 3018+4 3024 3031 3046+21 73664+50 73727 tang tangut 94176 94208+6136 100352+768",
  "101632+9 tavt taiviet 43648+67 43739+5 telu telugu 3072+13 3086+3 3090+23 3114+16 3132+9 3142+3",
  "3146+4 3157+2 3160+3 3165 3168+4 3174+10 3191+9 tfng tifinagh 11568+56 11631+2 11647 tglg",
  "tagalog 5888+22 5919 thaa thaana 1920+50 thai 3585+58 3648+28 tibt tibetan 3840+72 3913+36",
  "3953+39 3993+36 4030+15 4046+7 4057+2 tirh tirhuta 70784+72 70864+10 tnsa tangsa 92784+79",
  "92864+10 toto 123536+31 ugar ugaritic 66432+30 66463 vaii vai 42240+300 vith vithkuqi 66928+11",
  "66940+15 66956+7 66964+2 66967+11 66979+15 66995+7 67003+2 wara warangciti 71840+83 71935 wcho",
  "wancho 123584+58 123647 xpeo oldpersian 66464+36 66504+14 xsux cuneiform 73728+922 74752+111",
  "74864+5 74880+196 yezi yezidi 69248+42 69291+3 69296+2 yiii yi 40960+1165 42128+55 zanb",
  "zanabazarsquare 72192+72 zinh inherited qaai 768+112 1157+2 1611+11 1648 2385+4 6832+31 7376+3",
  "7380+13 7394+7 7405 7412 7416+2 7616+64 8204+2 8400+33 12330+4 12441+2 65024+16 65056+14 66045",
  "66272 70459 118528+46 118576+23 119143+3 119163+8 119173+7 119210+4 917760+240 zyyy common 0+65",
  "91+6 123+47 171+15 187+5 215 247 697+39 741+5 748+20 884 894 901 903 1541 1548 1563 1567 1600",
  "1757 2274 2404+2 3647 4053+4 4347 5867+3 5941+2 6146+2 6149 7379 7393 7401+4 7406+6 7413+3 7418",
  "8192+12 8206+87 8294+11 8308+11 8320+15 8352+33 8448+38 8487+3 8492+6 8499+27 8527+17 8585+3",
  "8592+663 9280+11 9312+928 10496+628 11126+32 11159+105 11776+94 12272+12 12288+5 12294 12296+25",
  "12336+8 12348+4 12443+2 12448 12539+2 12688+16 12736+36 12832+64 12927+81 13055 13144+168",
  "19904+64 42752+34 42888+3 43056+10 43310 43471 43867 43882+2 64830+2 65040+10 65072+35 65108+19",
  "65128+4 65279 65281+32 65339+6 65371+11 65392 65438+2 65504+7 65512+7 65529+5 65792+3 65799+45",
  "65847+9 65936+13 66000+45 66273+27 113824+4 118608+116 118784+246 119040+39 119081+62 119146+17",
  "119171+2 119180+30 119214+61 119488+20 119520+20 119552+87 119648+25 119808+85 119894+71",
  "119966+2 119970 119973+2 119977+4 119982+12 119995 119997+7 120005+65 120071+4 120077+8 120086+7",
  "120094+28 120123+4 120128+5 120134 120138+7 120146+340 120488+292 120782+50 126065+68 126209+61",
  "126976+44 127024+100 127136+15 127153+15 127169+15 127185+37 127232+174 127462+26 127489+2",
  "127504+44 127552+9 127568+2 127584+6 127744+984 128732+17 128752+13 128768+119 128891+95",
  "128992+12 129008 129024+12 129040+56 129104+10 129120+40 129168+30 129200+2 129280+340 129632+14",
  "129648+13 129664+9 129680+46 129727+7 129742+14 129760+9 129776+9 129792+147 129940+55 130032+10",
  "917505 917536+96"
]

/-- Properties that say what kind of letter a character is. -/
def letterWords : List String := [
  "alpha alphabetic 65+26 97+26 170 181 186 192+23 216+31 248+458 710+12 736+5 748 750 837 880+5",
  "886+2 890+4 895 902 904+3 908 910+20 931+83 1015+139 1162+166 1329+38 1369 1376+41 1456+14 1471",
  "1473+2 1476+2 1479 1488+27 1519+4 1552+11 1568+56 1625+7 1646+102 1749+8 1761+8 1773+3 1786+3",
  "1791 1808+48 1869+101 1994+33 2036+2 2042 2048+24 2074+19 2112+25 2144+11 2160+24 2185+6 2208+42",
  "2260+12 2275+7 2288+76 2365+16 2382+3 2389+15 2417+19 2437+8 2447+2 2451+22 2474+7 2482 2486+4",
  "2493+8 2503+2 2507+2 2510 2519 2524+2 2527+5 2544+2 2556 2561+3 2565+6 2575+2 2579+22 2602+7",
  "2610+2 2613+2 2616+2 2622+5 2631+2 2635+2 2641 2649+4 2654 2672+6 2689+3 2693+9 2703+3 2707+22",
  "2730+7 2738+2 2741+5 2749+9 2759+3 2763+2 2768 2784+4 2809+4 2817+3 2821+8 2831+2 2835+22 2858+7",
  "2866+2 2869+5 2877+8 2887+2 2891+2 2902+2 2908+2 2911+5 2929 2946+2 2949+6 2958+3 2962+4 2969+2",
  "2972 2974+2 2979+2 2984+3 2990+12 3006+5 3014+3 3018+3 3024 3031 3072+13 3086+3 3090+23 3114+16",
  "3133+8 3142+3 3146+3 3157+2 3160+3 3165 3168+4 3200+4 3205+8 3214+3 3218+23 3242+10 3253+5",
  "3261+8 3270+3 3274+3 3285+2 3293+2 3296+4 3313+3 3328+13 3342+3 3346+41 3389+8 3398+3 3402+3",
  "3406 3412+4 3423+5 3450+6 3457+3 3461+18 3482+24 3507+9 3517 3520+7 3535+6 3542 3544+8 3570+2",
  "3585+58 3648+7 3661 3713+2 3716 3718+5 3724+24 3749 3751+19 3771+3 3776+5 3782 3789 3804+4 3840",
  "3904+8 3913+36 3953+19 3976+16 3993+36 4096+55 4152 4155+5 4176+64 4250+4 4256+38 4295 4301",
  "4304+43 4348+333 4682+4 4688+7 4696 4698+4 4704+41 4746+4 4752+33 4786+4 4792+7 4800 4802+4",
  "4808+15 4824+57 4882+4 4888+67 4992+16 5024+86 5112+6 5121+620 5743+17 5761+26 5792+75 5870+11",
  "5888+20 5919+21 5952+20 5984+13 5998+3 6002+2 6016+52 6070+19 6103 6108 6176+89 6272+43 6320+70",
  "6400+31 6432+12 6448+9 6480+30 6512+5 6528+44 6576+26 6656+28 6688+63 6753+20 6823 6847+2 6860+3",
  "6912+52 6965+15 6981+8 7040+42 7084+4 7098+44 7143+11 7168+55 7245+3 7258+36 7296+9 7312+43",
  "7357+3 7401+4 7406+6 7413+2 7418 7424+192 7655+14 7680+278 7960+6 7968+38 8008+6 8016+8 8025",
  "8027 8029 8031+31 8064+53 8118+7 8126 8130+3 8134+7 8144+4 8150+6 8160+13 8178+3 8182+7 8305",
  "8319 8336+13 8450 8455 8458+10 8469 8473+5 8484 8486 8488 8490+4 8495+11 8508+4 8517+5 8526",
  "8544+41 9398+52 11264+229 11499+4 11506+2 11520+38 11559 11565 11568+56 11631 11648+23 11680+7",
  "11688+7 11696+7 11704+7 11712+7 11720+7 11728+7 11736+7 11744+32 11823 12293+3 12321+9 12337+5",
  "12344+5 12353+86 12445+3 12449+90 12540+4 12549+43 12593+94 12704+32 12784+16 13312+6592",
  "19968+22157 42192+46 42240+269 42512+16 42538+2 42560+47 42612+8 42623+113 42775+9 42786+103",
  "42891+64 42960+2 42963 42965+5 42994+20 43015+33 43072+52 43136+68 43205 43250+6 43259 43261+3",
  "43274+33 43312+35 43360+29 43392+51 43444+12 43471 43488+16 43514+5 43520+55 43584+14 43616+23",
  "43642+69 43712 43714 43739+3 43744+16 43762+4 43777+6 43785+6 43793+6 43808+7 43816+7 43824+43",
  "43868+14 43888+123 44032+11172 55216+23 55243+49 63744+366 64112+106 64256+7 64275+5 64285+12",
  "64298+13 64312+5 64318 64320+2 64323+2 64326+108 64467+363 64848+64 64914+54 65008+12 65136+5",
  "65142+135 65313+26 65345+26 65382+89 65474+6 65482+6 65490+6 65498+3 65536+12 65549+26 65576+19",
  "65596+2 65599+15 65616+14 65664+123 65856+53 66176+29 66208+49 66304+32 66349+30 66384+43",
  "66432+30 66464+36 66504+8 66513+5 66560+158 66736+36 66776+36 66816+40 66864+52 66928+11",
  "66940+15 66956+7 66964+2 66967+11 66979+15 66995+7 67003+2 67072+311 67392+22 67424+8 67456+6",
  "67463+42 67506+9 67584+6 67592 67594+44 67639+2 67644 67647+23 67680+23 67712+31 67808+19",
  "67828+2 67840+22 67872+26 67968+56 68030+2 68096+4 68101+2 68108+8 68117+3 68121+29 68192+29",
  "68224+29 68288+8 68297+28 68352+54 68416+22 68448+19 68480+18 68608+73 68736+51 68800+51",
  "68864+40 69248+42 69291+2 69296+2 69376+29 69415 69424+22 69488+18 69552+21 69600+23 69632+70",
  "69745+5 69760+57 69826 69840+25 69888+51 69956+4 69968+35 70006 70016+64 70081+4 70094+2 70106",
  "70108 70144+18 70163+34 70199 70206+4 70272+7 70280 70282+4 70287+15 70303+10 70320+57 70400+4",
  "70405+8 70415+2 70419+22 70442+7 70450+2 70453+5 70461+8 70471+2 70475+2 70480 70487 70493+7",
  "70656+66 70723+3 70727+4 70751+3 70784+66 70852+2 70855 71040+54 71096+7 71128+6 71168+63 71232",
  "71236 71296+54 71352 71424+27 71453+14 71488+7 71680+57 71840+64 71935+8 71945 71948+8 71957+2",
  "71960+30 71991+2 71995+2 71999+4 72096+8 72106+46 72154+6 72161 72163+2 72192+51 72245+10",
  "72272+72 72349 72368+73 72704+9 72714+45 72760+7 72768 72818+30 72850+22 72873+14 72960+7",
  "72968+2 72971+44 73018 73020+2 73023+3 73027 73030+2 73056+6 73063+2 73066+37 73104+2 73107+4",
  "73112 73440+23 73472+17 73490+41 73534+3 73648 73728+922 74752+111 74880+196 77712+97 77824+1072",
  "78913+6 82944+583 92160+569 92736+31 92784+79 92880+30 92928+48 92992+4 93027+21 93053+19",
  "93760+64 93952+75 94031+57 94095+17 94176+2 94179 94192+2 94208+6136 100352+1238 101632+9",
  "110576+4 110581+7 110589+2 110592+291 110898 110928+3 110933 110948+4 110960+396 113664+107",
  "113776+13 113792+9 113808+10 113822 119808+85 119894+71 119966+2 119970 119973+2 119977+4",
  "119982+12 119995 119997+7 120005+65 120071+4 120077+8 120086+7 120094+28 120123+4 120128+5",
  "120134 120138+7 120146+340 120488+25 120514+25 120540+31 120572+25 120598+31 120630+25 120656+31",
  "120688+25 120714+31 120746+25 120772+8 122624+31 122661+6 122880+7 122888+17 122907+7 122915+2",
  "122918+5 122928+62 123023 123136+45 123191+7 123214 123536+30 123584+44 124112+28 124896+7",
  "124904+4 124909+2 124912+15 124928+197 125184+68 125255 125259 126464+4 126469+27 126497+2",
  "126500 126503 126505+10 126516+4 126521 126523 126530 126535 126537 126539 126541+3 126545+2",
  "126548 126551 126553 126555 126557 126559 126561+2 126564 126567+4 126572+7 126580+4 126585+4",
  "126590 126592+10 126603+17 126625+3 126629+5 126635+17 127280+26 127312+26 127344+26",
  "131072+42720 173824+4154 177984+222 178208+5762 183984+7473 194560+542 196608+4939 201552+4192",
  "lower lowercase 97+26 170 181 186 223+24 248+8 257 259 261 263 265 267 269 271 273 275 277 279",
  "281 283 285 287 289 291 293 295 297 299 301 303 305 307 309 311+2 314 316 318 320 322 324 326",
  "328+2 331 333 335 337 339 341 343 345 347 349 351 353 355 357 359 361 363 365 367 369 371 373",
  "375 378 380 382+3 387 389 392 396+2 402 405 409+3 414 417 419 421 424 426+2 429 432 436 438",
  "441+2 445+3 454 457 460 462 464 466 468 470 472 474 476+2 479 481 483 485 487 489 491 493 495+2",
  "499 501 505 507 509 511 513 515 517 519 521 523 525 527 529 531 533 535 537 539 541 543 545 547",
  "549 551 553 555 557 559 561 563+7 572 575+2 578 583 585 587 589 591+69 661+36 704+2 736+5 837",
  "881 883 887 890+4 912 940+35 976+2 981+3 985 987 989 991 993 995 997 999 1001 1003 1005 1007+5",
  "1013 1016 1019+2 1072+48 1121 1123 1125 1127 1129 1131 1133 1135 1137 1139 1141 1143 1145 1147",
  "1149 1151 1153 1163 1165 1167 1169 1171 1173 1175 1177 1179 1181 1183 1185 1187 1189 1191 1193",
  "1195 1197 1199 1201 1203 1205 1207 1209 1211 1213 1215 1218 1220 1222 1224 1226 1228 1230+2 1233",
  "1235 1237 1239 1241 1243 1245 1247 1249 1251 1253 1255 1257 1259 1261 1263 1265 1267 1269 1271",
  "1273 1275 1277 1279 1281 1283 1285 1287 1289 1291 1293 1295 1297 1299 1301 1303 1305 1307 1309",
  "1311 1313 1315 1317 1319 1321 1323 1325 1327 1376+41 4304+43 4348+4 5112+6 7296+9 7424+192 7681",
  "7683 7685 7687 7689 7691 7693 7695 7697 7699 7701 7703 7705 7707 7709 7711 7713 7715 7717 7719",
  "7721 7723 7725 7727 7729 7731 7733 7735 7737 7739 7741 7743 7745 7747 7749 7751 7753 7755 7757",
  "7759 7761 7763 7765 7767 7769 7771 7773 7775 7777 7779 7781 7783 7785 7787 7789 7791 7793 7795",
  "7797 7799 7801 7803 7805 7807 7809 7811 7813 7815 7817 7819 7821 7823 7825 7827 7829+9 7839 7841",
  "7843 7845 7847 7849 7851 7853 7855 7857 7859 7861 7863 7865 7867 7869 7871 7873 7875 7877 7879",
  "7881 7883 7885 7887 7889 7891 7893 7895 7897 7899 7901 7903 7905 7907 7909 7911 7913 7915 7917",
  "7919 7921 7923 7925 7927 7929 7931 7933 7935+9 7952+6 7968+8 7984+8 8000+6 8016+8 8032+8 8048+14",
  "8064+8 8080+8 8096+8 8112+5 8118+2 8126 8130+3 8134+2 8144+4 8150+2 8160+8 8178+3 8182+2 8305",
  "8319 8336+13 8458 8462+2 8467 8495 8500 8505 8508+2 8518+4 8526 8560+16 8580 9424+26 11312+48",
  "11361 11365+2 11368 11370 11372 11377 11379+2 11382+8 11393 11395 11397 11399 11401 11403 11405",
  "11407 11409 11411 11413 11415 11417 11419 11421 11423 11425 11427 11429 11431 11433 11435 11437",
  "11439 11441 11443 11445 11447 11449 11451 11453 11455 11457 11459 11461 11463 11465 11467 11469",
  "11471 11473 11475 11477 11479 11481 11483 11485 11487 11489 11491+2 11500 11502 11507 11520+38",
  "11559 11565 42561 42563 42565 42567 42569 42571 42573 42575 42577 42579 42581 42583 42585 42587",
  "42589 42591 42593 42595 42597 42599 42601 42603 42605 42625 42627 42629 42631 42633 42635 42637",
  "42639 42641 42643 42645 42647 42649 42651+3 42787 42789 42791 42793 42795 42797 42799+3 42803",
  "42805 42807 42809 42811 42813 42815 42817 42819 42821 42823 42825 42827 42829 42831 42833 42835",
  "42837 42839 42841 42843 42845 42847 42849 42851 42853 42855 42857 42859 42861 42863+10 42874",
  "42876 42879 42881 42883 42885 42887 42892 42894 42897 42899+3 42903 42905 42907 42909 42911",
  "42913 42915 42917 42919 42921 42927 42933 42935 42937 42939 42941 42943 42945 42947 42952 42954",
  "42961 42963 42965 42967 42969 42994+3 42998 43000+3 43824+43 43868+14 43888+80 64256+7 64275+5",
  "65345+26 66600+40 66776+36 66967+11 66979+15 66995+7 67003+2 67456 67459+3 67463+42 67506+9",
  "68800+51 71872+32 93792+32 119834+26 119886+7 119894+18 119938+26 119990+4 119995 119997+7",
  "120005+11 120042+26 120094+26 120146+26 120198+26 120250+26 120302+26 120354+26 120406+26",
  "120458+28 120514+25 120540+6 120572+25 120598+6 120630+25 120656+6 120688+25 120714+6 120746+25",
  "120772+6 120779 122624+10 122635+20 122661+6 122928+62 125218+34 upper uppercase 65+26 192+23",
  "216+7 256 258 260 262 264 266 268 270 272 274 276 278 280 282 284 286 288 290 292 294 296 298",
  "300 302 304 306 308 310 313 315 317 319 321 323 325 327 330 332 334 336 338 340 342 344 346 348",
  "350 352 354 356 358 360 362 364 366 368 370 372 374 376+2 379 381 385+2 388 390+2 393+3 398+4",
  "403+2 406+3 412+2 415+2 418 420 422+2 425 428 430+2 433+3 437 439+2 444 452 455 458 461 463 465",
  "467 469 471 473 475 478 480 482 484 486 488 490 492 494 497 500 502+3 506 508 510 512 514 516",
  "518 520 522 524 526 528 530 532 534 536 538 540 542 544 546 548 550 552 554 556 558 560 562",
  "570+2 573+2 577 579+4 584 586 588 590 880 882 886 895 902 904+3 908 910+2 913+17 931+9 975 978+3",
  "984 986 988 990 992 994 996 998 1000 1002 1004 1006 1012 1015 1017+2 1021+51 1120 1122 1124 1126",
  "1128 1130 1132 1134 1136 1138 1140 1142 1144 1146 1148 1150 1152 1162 1164 1166 1168 1170 1172",
  "1174 1176 1178 1180 1182 1184 1186 1188 1190 1192 1194 1196 1198 1200 1202 1204 1206 1208 1210",
  "1212 1214 1216+2 1219 1221 1223 1225 1227 1229 1232 1234 1236 1238 1240 1242 1244 1246 1248 1250",
  "1252 1254 1256 1258 1260 1262 1264 1266 1268 1270 1272 1274 1276 1278 1280 1282 1284 1286 1288",
  "1290 1292 1294 1296 1298 1300 1302 1304 1306 1308 1310 1312 1314 1316 1318 1320 1322 1324 1326",
  "1329+38 4256+38 4295 4301 5024+86 7312+43 7357+3 7680 7682 7684 7686 7688 7690 7692 7694 7696",
  "7698 7700 7702 7704 7706 7708 7710 7712 7714 7716 7718 7720 7722 7724 7726 7728 7730 7732 7734",
  "7736 7738 7740 7742 7744 7746 7748 7750 7752 7754 7756 7758 7760 7762 7764 7766 7768 7770 7772",
  "7774 7776 7778 7780 7782 7784 7786 7788 7790 7792 7794 7796 7798 7800 7802 7804 7806 7808 7810",
  "7812 7814 7816 7818 7820 7822 7824 7826 7828 7838 7840 7842 7844 7846 7848 7850 7852 7854 7856",
  "7858 7860 7862 7864 7866 7868 7870 7872 7874 7876 7878 7880 7882 7884 7886 7888 7890 7892 7894",
  "7896 7898 7900 7902 7904 7906 7908 7910 7912 7914 7916 7918 7920 7922 7924 7926 7928 7930 7932",
  "7934 7944+8 7960+6 7976+8 7992+8 8008+6 8025 8027 8029 8031 8040+8 8120+4 8136+4 8152+4 8168+5",
  "8184+4 8450 8455 8459+3 8464+3 8469 8473+5 8484 8486 8488 8490+4 8496+4 8510+2 8517 8544+16 8579",
  "9398+26 11264+48 11360 11362+3 11367 11369 11371 11373+4 11378 11381 11390+3 11394 11396 11398",
  "11400 11402 11404 11406 11408 11410 11412 11414 11416 11418 11420 11422 11424 11426 11428 11430",
  "11432 11434 11436 11438 11440 11442 11444 11446 11448 11450 11452 11454 11456 11458 11460 11462",
  "11464 11466 11468 11470 11472 11474 11476 11478 11480 11482 11484 11486 11488 11490 11499 11501",
  "11506 42560 42562 42564 42566 42568 42570 42572 42574 42576 42578 42580 42582 42584 42586 42588",
  "42590 42592 42594 42596 42598 42600 42602 42604 42624 42626 42628 42630 42632 42634 42636 42638",
  "42640 42642 42644 42646 42648 42650 42786 42788 42790 42792 42794 42796 42798 42802 42804 42806",
  "42808 42810 42812 42814 42816 42818 42820 42822 42824 42826 42828 42830 42832 42834 42836 42838",
  "42840 42842 42844 42846 42848 42850 42852 42854 42856 42858 42860 42862 42873 42875 42877+2",
  "42880 42882 42884 42886 42891 42893 42896 42898 42902 42904 42906 42908 42910 42912 42914 42916",
  "42918 42920 42922+5 42928+5 42934 42936 42938 42940 42942 42944 42946 42948+4 42953 42960 42966",
  "42968 42997 65313+26 66560+40 66736+36 66928+11 66940+15 66956+7 66964+2 68736+51 71840+32",
  "93760+32 119808+26 119860+26 119912+26 119964 119966+2 119970 119973+2 119977+4 119982+8",
  "120016+26 120068+2 120071+4 120077+8 120086+7 120120+2 120123+4 120128+5 120134 120138+7",
  "120172+26 120224+26 120276+26 120328+26 120380+26 120432+26 120488+25 120546+25 120604+25",
  "120662+25 120720+25 120778 125184+34 127280+26 127312+26 127344+26"
]

/-- The range of a word that begins with a digit. -/
def rangeOfWord (cs : List Char) : Nat × Nat :=
  match cut '+' cs with
  | some (first, count) => (Decimal.valueOf first, Decimal.valueOf count)
  | none => (Decimal.valueOf cs, 1)

/-- Adds the word in front of a table to the sets of the rest of it. -/
def addWord (word : String) (sets : List NamedSet) : List NamedSet :=
  let isRange := (word.toList.head?.map Decimal.isDigit).getD false
  match sets with
  | [] => if isRange then [{ ranges := [rangeOfWord word.toList] }] else [{ names := [word] }]
  | s :: rest =>
    if !isRange then { s with names := word :: s.names } :: rest
    else if s.names.isEmpty then { s with ranges := rangeOfWord word.toList :: s.ranges } :: rest
    else { ranges := [rangeOfWord word.toList] } :: s :: rest

def namedSets (table : List String) : List NamedSet :=
  (table.flatMap (split ' ')).foldr addWord []

/-- The ranges of the set of a name, which is in lower case and without blanks. -/
def findSet? (table : List String) (name : String) : Option (List (Nat × Nat)) :=
  ((namedSets table).find? (·.names.contains name)).map NamedSet.ranges

def script? (name : String) : Option (List (Nat × Nat)) := findSet? scriptWords name

/-- The ranges of a kind of letter. -/
def letterKind? (name : String) : Option (List (Nat × Nat)) := findSet? letterWords name

end EntityMapper.Text
