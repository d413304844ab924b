namespace Catalog.DomainName

/-- Characters that are written with several ones in names (Unicode 17). From each code point on,
the texts for it and for those after it stand in order. -/
def foldedTexts : List (Nat × List String) := [
  (0xa8, [" \u0308"]),
  (0xaf, [" \u0304"]),
  (0xb4, [" \u0301"]),
  (0xb8, [" \u0327"]),
  (0xbc, ["1⁄4", "1⁄2", "3⁄4"]),
  (0x130, ["i\u0307"]),
  (0x132, ["ij", "ij"]),
  (0x13f, ["l·", "l·"]),
  (0x149, ["ʼn"]),
  (0x1c4, ["dž", "dž", "dž", "lj", "lj", "lj", "nj", "nj", "nj"]),
  (0x1f1, ["dz", "dz", "dz"]),
  (0x2d8, [" \u0306", " \u0307", " \u030a", " \u0328", " \u0303", " \u030b"]),
  (0x344, ["\u0308\u0301"]),
  (0x37a, [" ι"]),
  (0x384, [" \u0301", " \u0308\u0301"]),
  (0x587, ["եւ"]),
  (0x675, ["\u0627\u0674", "\u0648\u0674", "\u06c7\u0674", "\u064a\u0674"]),
  (0x958, ["क\u093c", "ख\u093c", "ग\u093c", "ज\u093c", "ड\u093c", "ढ\u093c", "फ\u093c", "य\u093c"]),
  (0x9dc, ["ড\u09bc", "ঢ\u09bc"]),
  (0x9df, ["য\u09bc"]),
  (0xa33, ["ਲ\u0a3c"]),
  (0xa36, ["ਸ\u0a3c"]),
  (0xa59, ["ਖ\u0a3c", "ਗ\u0a3c", "ਜ\u0a3c"]),
  (0xa5e, ["ਫ\u0a3c"]),
  (0xb5c, ["ଡ\u0b3c", "ଢ\u0b3c"]),
  (0xe33, ["\u0e4dา"]),
  (0xeb3, ["\u0ecdາ"]),
  (0xedc, ["ຫນ", "ຫມ"]),
  (0xf43, ["ག\u0fb7"]),
  (0xf4d, ["ཌ\u0fb7"]),
  (0xf52, ["ད\u0fb7"]),
  (0xf57, ["བ\u0fb7"]),
  (0xf5c, ["ཛ\u0fb7"]),
  (0xf69, ["ཀ\u0fb5"]),
  (0xf73, ["\u0f71\u0f72"]),
  (0xf75, ["\u0f71\u0f74", "\u0fb2\u0f80", "\u0fb2\u0f71\u0f80", "\u0fb3\u0f80",
    "\u0fb3\u0f71\u0f80"]),
  (0xf81, ["\u0f71\u0f80"]),
  (0xf93, ["\u0f92\u0fb7"]),
  (0xf9d, ["\u0f9c\u0fb7"]),
  (0xfa2, ["\u0fa1\u0fb7"]),
  (0xfa7, ["\u0fa6\u0fb7"]),
  (0xfac, ["\u0fab\u0fb7"]),
  (0xfb9, ["\u0f90\u0fb5"]),
  (0x1e9a, ["aʾ"]),
  (0x1f80, ["ἀι", "ἁι", "ἂι", "ἃι", "ἄι", "ἅι", "ἆι", "ἇι", "ἀι", "ἁι", "ἂι", "ἃι", "ἄι", "ἅι",
    "ἆι", "ἇι", "ἠι", "ἡι", "ἢι", "ἣι", "ἤι", "ἥι", "ἦι", "ἧι", "ἠι", "ἡι", "ἢι", "ἣι", "ἤι", "ἥι",
    "ἦι", "ἧι"]),
  (0x1fa0, ["ὠι", "ὡι", "ὢι", "ὣι", "ὤι", "ὥι", "ὦι", "ὧι", "ὠι", "ὡι", "ὢι", "ὣι", "ὤι", "ὥι",
    "ὦι", "ὧι"]),
  (0x1fb2, ["ὰι", "αι", "άι"]),
  (0x1fb7, ["ᾶι"]),
  (0x1fbc, ["αι", " \u0313"]),
  (0x1fbf, [" \u0313", " \u0342", " \u0308\u0342", "ὴι", "ηι", "ήι"]),
  (0x1fc7, ["ῆι"]),
  (0x1fcc, ["ηι", " \u0313\u0300", " \u0313\u0301", " \u0313\u0342"]),
  (0x1fdd, [" \u0314\u0300", " \u0314\u0301", " \u0314\u0342"]),
  (0x1fed, [" \u0308\u0300", " \u0308\u0301"]),
  (0x1ff2, ["ὼι", "ωι", "ώι"]),
  (0x1ff7, ["ῶι"]),
  (0x1ffc, ["ωι", " \u0301", " \u0314"]),
  (0x2017, [" \u0333"]),
  (0x2033, ["′′", "′′′"]),
  (0x2036, ["‵‵", "‵‵‵"]),
  (0x203c, ["!!"]),
  (0x203e, [" \u0305"]),
  (0x2047, ["??", "?!", "!?"]),
  (0x2057, ["′′′′"]),
  (0x20a8, ["rs"]),
  (0x2100, ["a/c", "a/s"]),
  (0x2103, ["°c"]),
  (0x2105, ["c/o", "c/u"]),
  (0x2109, ["°f"]),
  (0x2116, ["no"]),
  (0x2120, ["sm", "tel", "tm"]),
  (0x213b, ["fax"]),
  (0x2150, ["1⁄7", "1⁄9", "1⁄10", "1⁄3", "2⁄3", "1⁄5", "2⁄5", "3⁄5", "4⁄5", "1⁄6", "5⁄6", "1⁄8",
    "3⁄8", "5⁄8", "7⁄8", "1⁄"]),
  (0x2161, ["ii", "iii", "iv"]),
  (0x2165, ["vi", "vii", "viii", "ix"]),
  (0x216a, ["xi", "xii"]),
  (0x2171, ["ii", "iii", "iv"]),
  (0x2175, ["vi", "vii", "viii", "ix"]),
  (0x217a, ["xi", "xii"]),
  (0x2189, ["0⁄3"]),
  (0x222c, ["∫∫", "∫∫∫"]),
  (0x222f, ["∮∮", "∮∮∮"]),
  (0x2469, ["10", "11", "12", "13", "14", "15", "16", "17", "18", "19", "20", "(1)", "(2)", "(3)",
    "(4)", "(5)", "(6)", "(7)", "(8)", "(9)", "(10)", "(11)", "(12)", "(13)", "(14)", "(15)",
    "(16)", "(17)", "(18)", "(19)", "(20)"]),
  (0x249c, ["(a)", "(b)", "(c)", "(d)", "(e)", "(f)", "(g)", "(h)", "(i)", "(j)", "(k)", "(l)",
    "(m)", "(n)", "(o)", "(p)", "(q)", "(r)", "(s)", "(t)", "(u)", "(v)", "(w)", "(x)", "(y)",
    "(z)"]),
  (0x2a0c, ["∫∫∫∫"]),
  (0x2a74, ["::=", "==", "==="]),
  (0x2adc, ["⫝\u0338"]),
  (0x309b, [" \u3099", " \u309a"]),
  (0x309f, ["より"]),
  (0x30ff, ["コト"]),
  (0x3200, ["(ᄀ)", "(ᄂ)", "(ᄃ)", "(ᄅ)", "(ᄆ)", "(ᄇ)", "(ᄉ)", "(ᄋ)", "(ᄌ)", "(ᄎ)", "(ᄏ)", "(ᄐ)",
    "(ᄑ)", "(ᄒ)", "(가)", "(나)", "(다)", "(라)", "(마)", "(바)", "(사)", "(아)", "(자)", "(차)", "(카)",
    "(타)", "(파)", "(하)", "(주)", "(오전)", "(오후)"]),
  (0x3220, ["(一)", "(二)", "(三)", "(四)", "(五)", "(六)", "(七)", "(八)", "(九)", "(十)", "(月)", "(火)",
    "(水)", "(木)", "(金)", "(土)", "(日)", "(株)", "(有)", "(社)", "(名)", "(特)", "(財)", "(祝)", "(労)",
    "(代)", "(呼)", "(学)", "(監)", "(企)", "(資)", "(協)"]),
  (0x3240, ["(祭)", "(休)", "(自)", "(至)"]),
  (0x3250, ["pte", "21", "22", "23", "24", "25", "26", "27", "28", "29", "30", "31", "32", "33",
    "34", "35"]),
  (0x327c, ["참고", "주의"]),
  (0x32b1, ["36", "37", "38", "39", "40", "41", "42", "43", "44", "45", "46", "47", "48", "49",
    "50", "1月", "2月", "3月", "4月", "5月", "6月", "7月", "8月", "9月", "10月", "11月", "12月", "hg", "erg",
    "ev", "ltd"]),
  (0x32ff, ["令和", "アパート", "アルファ", "アンペア", "アール", "イニング", "インチ", "ウォン", "エスクード", "エーカー", "オンス",
    "オーム", "カイリ", "カラット", "カロリー", "ガロン", "ガンマ", "ギガ", "ギニー", "キュリー", "ギルダー", "キロ", "キログラム",
    "キロメートル", "キロワット", "グラム", "グラムトン", "クルゼイロ", "クローネ", "ケース", "コルナ", "コーポ"]),
  (0x331f, ["サイクル", "サンチーム", "シリング", "センチ", "セント", "ダース", "デシ", "ドル", "トン", "ナノ", "ノット", "ハイツ",
    "パーセント", "パーツ", "バーレル", "ピアストル", "ピクル", "ピコ", "ビル", "ファラッド", "フィート", "ブッシェル", "フラン", "ヘクタール",
    "ペソ", "ペニヒ", "ヘルツ", "ペンス", "ページ", "ベータ", "ポイント", "ボルト"]),
  (0x333f, ["ホン", "ポンド", "ホール", "ホーン", "マイクロ", "マイル", "マッハ", "マルク", "マンション", "ミクロン", "ミリ", "ミリバール",
    "メガ", "メガトン", "メートル", "ヤード", "ヤール", "ユアン", "リットル", "リラ", "ルピー", "ルーブル", "レム", "レントゲン", "ワット",
    "0点", "1点", "2点", "3点", "4点", "5点", "6点"]),
  (0x335f, ["7点", "8点", "9点", "10点", "11点", "12点", "13点", "14点", "15点", "16点", "17点", "18点", "19点",
    "20点", "21点", "22点", "23点", "24点", "hpa", "da", "au", "bar", "ov", "pc", "dm", "dm2", "dm3",
    "iu", "平成", "昭和", "大正", "明治"]),
  (0x337f, ["株式会社", "pa", "na", "μa", "ma", "ka", "kb", "mb", "gb", "cal", "kcal", "pf", "nf", "μf",
    "μg", "mg", "kg", "hz", "khz", "mhz", "ghz", "thz", "μl", "ml", "dl", "kl", "fm", "nm", "μm",
    "mm", "cm", "km"]),
  (0x339f, ["mm2", "cm2", "m2", "km2", "mm3", "cm3", "m3", "km3", "m∕s", "m∕s2", "pa", "kpa", "mpa",
    "gpa", "rad", "rad∕s", "rad∕s2", "ps", "ns", "μs", "ms", "pv", "nv", "μv", "mv", "kv", "mv",
    "pw", "nw", "μw", "mw", "kw"]),
  (0x33bf, ["mw", "kω", "mω"]),
  (0x33c3, ["bq", "cc", "cd", "c∕kg"]),
  (0x33c8, ["db", "gy", "ha", "hp", "in", "kk", "km", "kt", "lm", "ln", "log", "lx", "mb", "mil",
    "mol", "ph"]),
  (0x33d9, ["ppm", "pr", "sr", "sv", "wb", "v∕m", "a∕m", "1日", "2日", "3日", "4日", "5日", "6日", "7日",
    "8日", "9日", "10日", "11日", "12日", "13日", "14日", "15日", "16日", "17日", "18日", "19日", "20日", "21日",
    "22日", "23日", "24日", "25日"]),
  (0x33f9, ["26日", "27日", "28日", "29日", "30日", "31日", "gal"]),
  (0xfb00, ["ff", "fi", "fl", "ffi", "ffl", "st", "st"]),
  (0xfb13, ["մն", "մե", "մի", "վն", "մխ"]),
  (0xfb1d, ["\u05d9\u05b4"]),
  (0xfb1f, ["\u05f2\u05b7"]),
  (0xfb2a, ["\u05e9\u05c1", "\u05e9\u05c2", "\u05e9\u05bc\u05c1", "\u05e9\u05bc\u05c2",
    "\u05d0\u05b7", "\u05d0\u05b8", "\u05d0\u05bc", "\u05d1\u05bc", "\u05d2\u05bc", "\u05d3\u05bc",
    "\u05d4\u05bc", "\u05d5\u05bc", "\u05d6\u05bc"]),
  (0xfb38, ["\u05d8\u05bc", "\u05d9\u05bc", "\u05da\u05bc", "\u05db\u05bc", "\u05dc\u05bc"]),
  (0xfb3e, ["\u05de\u05bc"]),
  (0xfb40, ["\u05e0\u05bc", "\u05e1\u05bc"]),
  (0xfb43, ["\u05e3\u05bc", "\u05e4\u05bc"]),
  (0xfb46, ["\u05e6\u05bc", "\u05e7\u05bc", "\u05e8\u05bc", "\u05e9\u05bc", "\u05ea\u05bc",
    "\u05d5\u05b9", "\u05d1\u05bf", "\u05db\u05bf", "\u05e4\u05bf", "\u05d0\u05dc"]),
  (0xfbdd, ["\u06c7\u0674"]),
  (0xfbea, ["\u0626\u0627", "\u0626\u0627", "\u0626\u06d5", "\u0626\u06d5", "\u0626\u0648",
    "\u0626\u0648", "\u0626\u06c7", "\u0626\u06c7", "\u0626\u06c6", "\u0626\u06c6", "\u0626\u06c8",
    "\u0626\u06c8", "\u0626\u06d0", "\u0626\u06d0", "\u0626\u06d0", "\u0626\u0649", "\u0626\u0649",
    "\u0626\u0649"]),
  (0xfc00, ["\u0626\u062c", "\u0626\u062d", "\u0626\u0645", "\u0626\u0649", "\u0626\u064a",
    "\u0628\u062c", "\u0628\u062d", "\u0628\u062e", "\u0628\u0645", "\u0628\u0649", "\u0628\u064a",
    "\u062a\u062c", "\u062a\u062d", "\u062a\u062e", "\u062a\u0645", "\u062a\u0649", "\u062a\u064a",
    "\u062b\u062c", "\u062b\u0645", "\u062b\u0649", "\u062b\u064a", "\u062c\u062d", "\u062c\u0645",
    "\u062d\u062c", "\u062d\u0645", "\u062e\u062c", "\u062e\u062d", "\u062e\u0645", "\u0633\u062c",
    "\u0633\u062d", "\u0633\u062e", "\u0633\u0645"]),
  (0xfc20, ["\u0635\u062d", "\u0635\u0645", "\u0636\u062c", "\u0636\u062d", "\u0636\u062e",
    "\u0636\u0645", "\u0637\u062d", "\u0637\u0645", "\u0638\u0645", "\u0639\u062c", "\u0639\u0645",
    "\u063a\u062c", "\u063a\u0645", "\u0641\u062c", "\u0641\u062d", "\u0641\u062e", "\u0641\u0645",
    "\u0641\u0649", "\u0641\u064a", "\u0642\u062d", "\u0642\u0645", "\u0642\u0649", "\u0642\u064a",
    "\u0643\u0627", "\u0643\u062c", "\u0643\u062d", "\u0643\u062e", "\u0643\u0644", "\u0643\u0645",
    "\u0643\u0649", "\u0643\u064a", "\u0644\u062c"]),
  (0xfc40, ["\u0644\u062d", "\u0644\u062e", "\u0644\u0645", "\u0644\u0649", "\u0644\u064a",
    "\u0645\u062c", "\u0645\u062d", "\u0645\u062e", "\u0645\u0645", "\u0645\u0649", "\u0645\u064a",
    "\u0646\u062c", "\u0646\u062d", "\u0646\u062e", "\u0646\u0645", "\u0646\u0649", "\u0646\u064a",
    "\u0647\u062c", "\u0647\u0645", "\u0647\u0649", "\u0647\u064a", "\u064a\u062c", "\u064a\u062d",
    "\u064a\u062e", "\u064a\u0645", "\u064a\u0649", "\u064a\u064a", "\u0630\u0670", "\u0631\u0670",
    "\u0649\u0670", " \u064c\u0651", " \u064d\u0651"]),
  (0xfc60, [" \u064e\u0651", " \u064f\u0651", " \u0650\u0651", " \u0651\u0670", "\u0626\u0631",
    "\u0626\u0632", "\u0626\u0645", "\u0626\u0646", "\u0626\u0649", "\u0626\u064a", "\u0628\u0631",
    "\u0628\u0632", "\u0628\u0645", "\u0628\u0646", "\u0628\u0649", "\u0628\u064a", "\u062a\u0631",
    "\u062a\u0632", "\u062a\u0645", "\u062a\u0646", "\u062a\u0649", "\u062a\u064a", "\u062b\u0631",
    "\u062b\u0632", "\u062b\u0645", "\u062b\u0646", "\u062b\u0649", "\u062b\u064a", "\u0641\u0649",
    "\u0641\u064a", "\u0642\u0649", "\u0642\u064a"]),
  (0xfc80, ["\u0643\u0627", "\u0643\u0644", "\u0643\u0645", "\u0643\u0649", "\u0643\u064a",
    "\u0644\u0645", "\u0644\u0649", "\u0644\u064a", "\u0645\u0627", "\u0645\u0645", "\u0646\u0631",
    "\u0646\u0632", "\u0646\u0645", "\u0646\u0646", "\u0646\u0649", "\u0646\u064a", "\u0649\u0670",
    "\u064a\u0631", "\u064a\u0632", "\u064a\u0645", "\u064a\u0646", "\u064a\u0649", "\u064a\u064a",
    "\u0626\u062c", "\u0626\u062d", "\u0626\u062e", "\u0626\u0645", "\u0626\u0647", "\u0628\u062c",
    "\u0628\u062d", "\u0628\u062e", "\u0628\u0645"]),
  (0xfca0, ["\u0628\u0647", "\u062a\u062c", "\u062a\u062d", "\u062a\u062e", "\u062a\u0645",
    "\u062a\u0647", "\u062b\u0645", "\u062c\u062d", "\u062c\u0645", "\u062d\u062c", "\u062d\u0645",
    "\u062e\u062c", "\u062e\u0645", "\u0633\u062c", "\u0633\u062d", "\u0633\u062e", "\u0633\u0645",
    "\u0635\u062d", "\u0635\u062e", "\u0635\u0645", "\u0636\u062c", "\u0636\u062d", "\u0636\u062e",
    "\u0636\u0645", "\u0637\u062d", "\u0638\u0645", "\u0639\u062c", "\u0639\u0645", "\u063a\u062c",
    "\u063a\u0645", "\u0641\u062c", "\u0641\u062d"]),
  (0xfcc0, ["\u0641\u062e", "\u0641\u0645", "\u0642\u062d", "\u0642\u0645", "\u0643\u062c",
    "\u0643\u062d", "\u0643\u062e", "\u0643\u0644", "\u0643\u0645", "\u0644\u062c", "\u0644\u062d",
    "\u0644\u062e", "\u0644\u0645", "\u0644\u0647", "\u0645\u062c", "\u0645\u062d", "\u0645\u062e",
    "\u0645\u0645", "\u0646\u062c", "\u0646\u062d", "\u0646\u062e", "\u0646\u0645", "\u0646\u0647",
    "\u0647\u062c", "\u0647\u0645", "\u0647\u0670", "\u064a\u062c", "\u064a\u062d", "\u064a\u062e",
    "\u064a\u0645", "\u064a\u0647", "\u0626\u0645"]),
  (0xfce0, ["\u0626\u0647", "\u0628\u0645", "\u0628\u0647", "\u062a\u0645", "\u062a\u0647",
    "\u062b\u0645", "\u062b\u0647", "\u0633\u0645", "\u0633\u0647", "\u0634\u0645", "\u0634\u0647",
    "\u0643\u0644", "\u0643\u0645", "\u0644\u0645", "\u0646\u0645", "\u0646\u0647", "\u064a\u0645",
    "\u064a\u0647", "\u0640\u064e\u0651", "\u0640\u064f\u0651", "\u0640\u0650\u0651",
    "\u0637\u0649", "\u0637\u064a", "\u0639\u0649", "\u0639\u064a", "\u063a\u0649", "\u063a\u064a",
    "\u0633\u0649", "\u0633\u064a", "\u0634\u0649", "\u0634\u064a", "\u062d\u0649"]),
  (0xfd00, ["\u062d\u064a", "\u062c\u0649", "\u062c\u064a", "\u062e\u0649", "\u062e\u064a",
    "\u0635\u0649", "\u0635\u064a", "\u0636\u0649", "\u0636\u064a", "\u0634\u062c", "\u0634\u062d",
    "\u0634\u062e", "\u0634\u0645", "\u0634\u0631", "\u0633\u0631", "\u0635\u0631", "\u0636\u0631",
    "\u0637\u0649", "\u0637\u064a", "\u0639\u0649", "\u0639\u064a", "\u063a\u0649", "\u063a\u064a",
    "\u0633\u0649", "\u0633\u064a", "\u0634\u0649", "\u0634\u064a", "\u062d\u0649", "\u062d\u064a",
    "\u062c\u0649", "\u062c\u064a", "\u062e\u0649"]),
  (0xfd20, ["\u062e\u064a", "\u0635\u0649", "\u0635\u064a", "\u0636\u0649", "\u0636\u064a",
    "\u0634\u062c", "\u0634\u062d", "\u0634\u062e", "\u0634\u0645", "\u0634\u0631", "\u0633\u0631",
    "\u0635\u0631", "\u0636\u0631", "\u0634\u062c", "\u0634\u062d", "\u0634\u062e", "\u0634\u0645",
    "\u0633\u0647", "\u0634\u0647", "\u0637\u0645", "\u0633\u062c", "\u0633\u062d", "\u0633\u062e",
    "\u0634\u062c", "\u0634\u062d", "\u0634\u062e", "\u0637\u0645", "\u0638\u0645", "\u0627\u064b",
    "\u0627\u064b"]),
  (0xfd50, ["\u062a\u062c\u0645", "\u062a\u062d\u062c", "\u062a\u062d\u062c", "\u062a\u062d\u0645",
    "\u062a\u062e\u0645", "\u062a\u0645\u062c", "\u062a\u0645\u062d", "\u062a\u0645\u062e",
    "\u062c\u0645\u062d", "\u062c\u0645\u062d", "\u062d\u0645\u064a", "\u062d\u0645\u0649",
    "\u0633\u062d\u062c", "\u0633\u062c\u062d", "\u0633\u062c\u0649", "\u0633\u0645\u062d",
    "\u0633\u0645\u062d", "\u0633\u0645\u062c", "\u0633\u0645\u0645", "\u0633\u0645\u0645",
    "\u0635\u062d\u062d", "\u0635\u062d\u062d", "\u0635\u0645\u0645", "\u0634\u062d\u0645",
    "\u0634\u062d\u0645", "\u0634\u062c\u064a", "\u0634\u0645\u062e", "\u0634\u0645\u062e",
    "\u0634\u0645\u0645", "\u0634\u0645\u0645", "\u0636\u062d\u0649", "\u0636\u062e\u0645"]),
  (0xfd70, ["\u0636\u062e\u0645", "\u0637\u0645\u062d", "\u0637\u0645\u062d", "\u0637\u0645\u0645",
    "\u0637\u0645\u064a", "\u0639\u062c\u0645", "\u0639\u0645\u0645", "\u0639\u0645\u0645",
    "\u0639\u0645\u0649", "\u063a\u0645\u0645", "\u063a\u0645\u064a", "\u063a\u0645\u0649",
    "\u0641\u062e\u0645", "\u0641\u062e\u0645", "\u0642\u0645\u062d", "\u0642\u0645\u0645",
    "\u0644\u062d\u0645", "\u0644\u062d\u064a", "\u0644\u062d\u0649", "\u0644\u062c\u062c",
    "\u0644\u062c\u062c", "\u0644\u062e\u0645", "\u0644\u062e\u0645", "\u0644\u0645\u062d",
    "\u0644\u0645\u062d", "\u0645\u062d\u062c", "\u0645\u062d\u0645", "\u0645\u062d\u064a",
    "\u0645\u062c\u062d", "\u0645\u062c\u0645", "\u0645\u062e\u062c", "\u0645\u062e\u0645"]),
  (0xfd92, ["\u0645\u062c\u062e", "\u0647\u0645\u062c", "\u0647\u0645\u0645", "\u0646\u062d\u0645",
    "\u0646\u062d\u0649", "\u0646\u062c\u0645", "\u0646\u062c\u0645", "\u0646\u062c\u0649",
    "\u0646\u0645\u064a", "\u0646\u0645\u0649", "\u064a\u0645\u0645", "\u064a\u0645\u0645",
    "\u0628\u062e\u064a", "\u062a\u062c\u064a", "\u062a\u062c\u0649", "\u062a\u062e\u064a",
    "\u062a\u062e\u0649", "\u062a\u0645\u064a", "\u062a\u0645\u0649", "\u062c\u0645\u064a",
    "\u062c\u062d\u0649", "\u062c\u0645\u0649", "\u0633\u062e\u0649", "\u0635\u062d\u064a",
    "\u0634\u062d\u064a", "\u0636\u062d\u064a", "\u0644\u062c\u064a", "\u0644\u0645\u064a",
    "\u064a\u062d\u064a", "\u064a\u062c\u064a", "\u064a\u0645\u064a", "\u0645\u0645\u064a"]),
  (0xfdb2, ["\u0642\u0645\u064a", "\u0646\u062d\u064a", "\u0642\u0645\u062d", "\u0644\u062d\u0645",
    "\u0639\u0645\u064a", "\u0643\u0645\u064a", "\u0646\u062c\u062d", "\u0645\u062e\u064a",
    "\u0644\u062c\u0645", "\u0643\u0645\u0645", "\u0644\u062c\u0645", "\u0646\u062c\u062d",
    "\u062c\u062d\u064a", "\u062d\u062c\u064a", "\u0645\u062c\u064a", "\u0641\u0645\u064a",
    "\u0628\u062d\u064a", "\u0643\u0645\u0645", "\u0639\u062c\u0645", "\u0635\u0645\u0645",
    "\u0633\u062e\u064a", "\u0646\u062c\u064a"]),
  (0xfdf0, ["\u0635\u0644\u06d2", "\u0642\u0644\u06d2", "\u0627\u0644\u0644\u0647",
    "\u0627\u0643\u0628\u0631", "\u0645\u062d\u0645\u062f", "\u0635\u0644\u0639\u0645",
    "\u0631\u0633\u0648\u0644", "\u0639\u0644\u064a\u0647", "\u0648\u0633\u0644\u0645",
    "\u0635\u0644\u0649",
    "\u0635\u0644\u0649 \u0627\u0644\u0644\u0647 \u0639\u0644\u064a\u0647 \u0648\u0633\u0644\u0645",
    "\u062c\u0644 \u062c\u0644\u0627\u0644\u0647", "\u0631\u06cc\u0627\u0644"]),
  (0xfe49, [" \u0305", " \u0305", " \u0305", " \u0305"]),
  (0xfe70, [" \u064b", "\u0640\u064b", " \u064c"]),
  (0xfe74, [" \u064d"]),
  (0xfe76, [" \u064e", "\u0640\u064e", " \u064f", "\u0640\u064f", " \u0650", "\u0640\u0650",
    " \u0651", "\u0640\u0651", " \u0652", "\u0640\u0652"]),
  (0xfef5, ["\u0644\u0622", "\u0644\u0622", "\u0644\u0623", "\u0644\u0623", "\u0644\u0625",
    "\u0644\u0625", "\u0644\u0627", "\u0644\u0627"]),
  (0xffe3, [" \u0304"]),
  (0x1d15e, ["𝅗𝅥", "𝅘𝅥", "𝅘𝅥𝅮", "𝅘𝅥𝅯", "𝅘𝅥𝅰", "𝅘𝅥𝅱", "𝅘𝅥𝅲"]),
  (0x1d1bb, ["𝆹𝅥", "𝆺𝅥", "𝆹𝅥𝅮", "𝆺𝅥𝅮", "𝆹𝅥𝅯", "𝆺𝅥𝅯"]),
  (0x1f101, ["0,", "1,", "2,", "3,", "4,", "5,", "6,", "7,", "8,", "9,"]),
  (0x1f110, ["(a)", "(b)", "(c)", "(d)", "(e)", "(f)", "(g)", "(h)", "(i)", "(j)", "(k)", "(l)",
    "(m)", "(n)", "(o)", "(p)", "(q)", "(r)", "(s)", "(t)", "(u)", "(v)", "(w)", "(x)", "(y)",
    "(z)", "〔s〕"]),
  (0x1f12d, ["cd", "wz"]),
  (0x1f14a, ["hv", "mv", "sd", "ss", "ppv", "wc"]),
  (0x1f16a, ["mc", "md", "mr"]),
  (0x1f190, ["dj"]),
  (0x1f200, ["ほか", "ココ"]),
  (0x1f240, ["〔本〕", "〔三〕", "〔二〕", "〔安〕", "〔点〕", "〔打〕", "〔盗〕", "〔勝〕", "〔敗〕"])]

end Catalog.DomainName
