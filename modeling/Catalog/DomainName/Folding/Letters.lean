namespace Catalog.DomainName

/-- Characters beyond ASCII that are written with another one in names: in lower case, without a
font or a frame, at their usual width (Unicode 17). From each code point on, the characters for it
and for those after it stand in order. -/
def foldedLetters : List (Nat × String) := [
  (0xa0, " "), (0xaa, "a"), (0xb2, "23"), (0xb5, "μ"), (0xb9, "1o"),
  (0xc0, "àáâãäåæçèéêëìíîïðñòóôõö×øùúûüýþ"), (0x100, "āāăăąąććĉĉċċččďďđđēēĕĕėėęęěěĝĝğğ"),
  (0x120, "ġġģģĥĥħħĩĩīīĭĭį"), (0x134, "ĵĵķķĸĺĺļļľ"), (0x141, "łłńńņņň"),
  (0x14a, "ŋŋōōŏŏőőœœŕŕŗŗřřśśŝŝşşššţţťťŧŧũũ"), (0x16a, "ūūŭŭůůűűųųŵŵŷŷÿźźżżžžsƀɓƃƃƅƅɔƈƈɖ"),
  (0x18a, "ɗƌƌƍǝəɛƒƒɠɣƕɩɨƙ"), (0x19c, "ɯɲƞɵơơƣƣƥƥʀƨƨʃƪƫƭƭʈưưʊʋƴƴƶƶʒƹ"), (0x1bc, "ƽ"),
  (0x1cd, "ǎǎǐǐǒǒǔǔǖǖǘǘǚǚǜǜǝǟǟǡǡǣǣǥǥǧǧǩǩǫǫǭ"), (0x1ed, "ǭǯ"),
  (0x1f4, "ǵǵƕƿǹǹǻǻǽǽǿǿȁȁȃȃȅȅȇȇȉȉȋȋȍȍȏȏȑȑȓȓ"), (0x214, "ȕȕȗȗșșțțȝȝȟȟƞȡȣȣȥȥȧȧȩȩȫȫȭȭȯȯȱȱȳ"),
  (0x23a, "ⱥȼȼƚⱦȿɀɂɂƀʉʌɇɇɉɉɋɋɍɍɏ"), (0x2b0, "hɦjrɹɻʁwy"), (0x2e0, "ɣlsxʕ"),
  (0x340, "\u0300\u0301\u0342\u0313"), (0x345, "ι"), (0x370, "ͱͱͳͳʹ͵ͷ"), (0x37e, ";ϳ"),
  (0x386, "ά·έήί"), (0x38c, "ό"), (0x38e, "ύώΐαβγδεζηθικλμνξοπρ"), (0x3a3, "στυφχψωϊϋ"),
  (0x3cf, "ϗβθυύϋφπϗϙϙϛϛϝϝϟϟϡϡϣϣϥϥϧϧϩϩϫϫϭϭϯ"), (0x3ef, "ϯκρσϳθε϶ϸϸσϻϻϼͻͼͽѐёђѓєѕіїјљњћќѝў"),
  (0x40f, "џабвгдежзийклмнопрстуфхцчшщъыьэю"), (0x42f, "я"),
  (0x460, "ѡѡѣѣѥѥѧѧѩѩѫѫѭѭѯѯѱѱѳѳѵѵѷѷѹѹѻѻѽѽѿѿ"), (0x480, "ҁ"),
  (0x48a, "ҋҋҍҍҏҏґґғғҕҕҗҗҙҙққҝҝҟҟҡҡңңҥҥҧҧҩҩ"), (0x4aa, "ҫҫҭҭүүұұҳҳҵҵҷҷҹҹһһҽҽҿҿӏӂӂӄӄӆӆӈӈӊ"),
  (0x4ca, "ӊӌӌӎӎӏӑӑӓӓӕӕӗӗәәӛӛӝӝӟӟӡӡӣӣӥӥӧӧөө"), (0x4ea, "ӫӫӭӭӯӯӱӱӳӳӵӵӷӷӹӹӻӻӽӽӿӿԁԁԃԃԅԅԇԇԉԉ"),
  (0x50a, "ԋԋԍԍԏԏԑԑԓԓԕԕԗԗԙԙԛԛԝԝԟԟԡԡԣԣԥԥԧԧԩԩ"), (0x52a, "ԫԫԭԭԯ"),
  (0x531, "աբգդեզէըթժիլխծկհձղճմյնշոչպջռսվտր"), (0x551, "ցւփքօֆ"), (0xf0c, "་"),
  (0x10a0, "ⴀⴁⴂⴃⴄⴅⴆⴇⴈⴉⴊⴋⴌⴍⴎⴏⴐⴑⴒⴓⴔⴕⴖⴗⴘⴙⴚⴛⴜⴝⴞⴟ"), (0x10c0, "ⴠⴡⴢⴣⴤⴥ"), (0x10c7, "ⴧ"), (0x10cd, "ⴭ"),
  (0x10fc, "ნ"), (0x13f8, "ᏰᏱᏲᏳᏴᏵ"), (0x1c80, "вдосттъѣꙋᲊ"),
  (0x1c90, "აბგდევზთიკლმნოპჟრსტუფქღყშჩცძწჭხჯ"), (0x1cb0, "ჰჱჲჳჴჵჶჷჸჹჺ"), (0x1cbd, "ჽჾჿ"),
  (0x1d2c, "aæbᴯdeǝghijklmnᴻoȣprtuwaɐɑᴂbdeəɛ"), (0x1d4c, "ɜgᵎkmŋoɔᴖᴗptuᴝɯvᴥβγδφχiruvβγρφχ"),
  (0x1d78, "н"), (0x1d9b, "ɒcɕðɜfɟɡɥɨɩɪᵻʝɭᶅʟɱɰɲɳɴɵɸʂʃƫʉʊᴜʋʌ"), (0x1dbb, "zʐʑʒθ"),
  (0x1e00, "ḁḁḃḃḅḅḇḇḉḉḋḋḍḍḏḏḑḑḓḓḕḕḗḗḙḙḛḛḝḝḟḟ"), (0x1e20, "ḡḡḣḣḥḥḧḧḩḩḫḫḭḭḯḯḱḱḳḳḵḵḷḷḹḹḻḻḽḽḿḿ"),
  (0x1e40, "ṁṁṃṃṅṅṇṇṉṉṋṋṍṍṏṏṑṑṓṓṕṕṗṗṙṙṛṛṝṝṟṟ"), (0x1e60, "ṡṡṣṣṥṥṧṧṩṩṫṫṭṭṯṯṱṱṳṳṵṵṷṷṹṹṻṻṽṽṿṿ"),
  (0x1e80, "ẁẁẃẃẅẅẇẇẉẉẋẋẍẍẏẏẑẑẓẓẕ"), (0x1e9b, "ṡẜẝßẟạạảảấấầầẩẩẫẫậậắắằằẳẳẵẵặặẹẹẻ"),
  (0x1ebb, "ẻẽẽếếềềểểễễệệỉỉịịọọỏỏốốồồổổỗỗộộớ"), (0x1edb, "ớờờởởỡỡợợụụủủứứừừửửữữựựỳỳỵỵỷỷỹỹỻ"),
  (0x1efb, "ỻỽỽỿ"), (0x1f08, "ἀἁἂἃἄἅἆἇ"), (0x1f18, "ἐἑἒἓἔἕ"), (0x1f28, "ἠἡἢἣἤἥἦἧ"),
  (0x1f38, "ἰἱἲἳἴἵἶἷ"), (0x1f48, "ὀὁὂὃὄὅ"), (0x1f59, "ὑ"), (0x1f5b, "ὓ"), (0x1f5d, "ὕ"),
  (0x1f5f, "ὗ"), (0x1f68, "ὠὡὢὣὤὥὦὧὰάὲέὴήὶίὸόὺύὼώ"), (0x1fb8, "ᾰᾱὰά"), (0x1fbe, "ι"),
  (0x1fc8, "ὲέὴή"), (0x1fd3, "ΐ"), (0x1fd8, "ῐῑὶί"), (0x1fe3, "ΰ"), (0x1fe8, "ῠῡὺύῥ"),
  (0x1fef, "\x60"), (0x1ff8, "ὸόὼώ"), (0x2000, "           "), (0x2011, "‐"), (0x202f, " "),
  (0x205f, " "), (0x2070, "0i"), (0x2074, "456789+−=()n0123456789+−=()"), (0x2090, "aeoxəhklmnpst"),
  (0x2102, "c"), (0x2107, "ɛ"), (0x210a, "ghhhhħiill℔n"), (0x2119, "pqrrr"),
  (0x2124, "z℥ω℧z℩kåbc℮eefⅎmo\u05d0\u05d1\u05d2\u05d3i"), (0x213c, "πγγπ∑"), (0x2145, "ddeij"),
  (0x2160, "i"), (0x2164, "v"), (0x2169, "x"), (0x216c, "lcdmi"), (0x2174, "v"), (0x2179, "x"),
  (0x217c, "lcdm"), (0x2183, "ↄ"), (0x2329, "〈〉"), (0x2460, "123456789"),
  (0x24b6, "abcdefghijklmnopqrstuvwxyzabcdef"), (0x24d6, "ghijklmnopqrstuvwxyz0"),
  (0x2c00, "ⰰⰱⰲⰳⰴⰵⰶⰷⰸⰹⰺⰻⰼⰽⰾⰿⱀⱁⱂⱃⱄⱅⱆⱇⱈⱉⱊⱋⱌⱍⱎⱏ"), (0x2c20, "ⱐⱑⱒⱓⱔⱕⱖⱗⱘⱙⱚⱛⱜⱝⱞⱟ"),
  (0x2c60, "ⱡⱡɫᵽɽⱥⱦⱨⱨⱪⱪⱬⱬɑɱɐɒⱱⱳⱳⱴⱶ"), (0x2c7c, "jvȿɀⲁⲁⲃⲃⲅⲅⲇⲇⲉⲉⲋⲋⲍⲍⲏⲏⲑⲑⲓⲓⲕⲕⲗⲗⲙⲙⲛⲛ"),
  (0x2c9c, "ⲝⲝⲟⲟⲡⲡⲣⲣⲥⲥⲧⲧⲩⲩⲫⲫⲭⲭⲯⲯⲱⲱⲳⲳⲵⲵⲷⲷⲹⲹⲻⲻ"), (0x2cbc, "ⲽⲽⲿⲿⳁⳁⳃⳃⳅⳅⳇⳇⳉⳉⳋⳋⳍⳍⳏⳏⳑⳑⳓⳓⳕⳕⳗⳗⳙⳙⳛⳛ"),
  (0x2cdc, "ⳝⳝⳟⳟⳡⳡⳣ"), (0x2ceb, "ⳬⳬⳮ"), (0x2cf2, "ⳳ"), (0x2d6f, "ⵡ"), (0x2e9f, "母"), (0x2ef3, "龟"),
  (0x2f00, "一丨丶丿乙亅二亠人儿入八冂冖冫几凵刀力勹匕匚匸十卜卩厂厶又口囗土"), (0x2f20, "士夂夊夕大女子宀寸小尢尸屮山巛工己巾干幺广廴廾弋弓彐彡彳心戈戶手"),
  (0x2f40, "支攴文斗斤方无日曰月木欠止歹殳毋比毛氏气水火爪父爻爿片牙牛犬玄玉"), (0x2f60, "瓜瓦甘生用田疋疒癶白皮皿目矛矢石示禸禾穴立竹米糸缶网羊羽老而耒耳"),
  (0x2f80, "聿肉臣自至臼舌舛舟艮色艸虍虫血行衣襾見角言谷豆豕豸貝赤走足身車辛"), (0x2fa0, "辰辵邑酉釆里金長門阜隶隹雨靑非面革韋韭音頁風飛食首香馬骨高髟鬥鬯"),
  (0x2fc0, "鬲鬼魚鳥鹵鹿麥麻黃黍黑黹黽鼎鼓鼠鼻齊齒龍龜龠"), (0x3000, " 、."), (0x3036, "〒〷十卄卅"),
  (0x3131, "ᄀᄁᆪᄂᆬᆭᄃᄄᄅᆰᆱᆲᆳᆴᆵᄚᄆᄇᄈᄡᄉᄊᄋᄌᄍᄎᄏᄐᄑ하ᅢ"), (0x3151, "ᅣᅤᅥᅦᅧᅨᅩᅪᅫᅬᅭᅮᅯᅰᅱᅲᅳᅴᅵ"),
  (0x3165, "ᄔᄕᇇᇈᇌᇎᇓᇗᇙᄜᇝᇟᄝᄞᄠᄢᄣᄧᄩᄫᄬᄭᄮᄯᄲᄶᅀᅇᅌᇱᇲᅗ"), (0x3185, "ᅘᅙᆄᆅᆈᆑᆒᆔᆞᆡ"), (0x3192, "一二三四上中下甲乙丙丁天地人"),
  (0x3244, "問幼文箏"), (0x3260, "ᄀᄂᄃᄅᄆᄇᄉᄋᄌᄎᄏᄐᄑᄒ가나다라마바사아자차카타파하"),
  (0x327e, "우㉿一二三四五六七八九十月火水木金土日株有社名特財祝労秘男女適優"), (0x329e, "印注項休写正上中下左右医宗学監企資協夜"),
  (0x32d0, "アイウエオカキクケコサシスセソタチツテトナニヌネノハヒフヘホマミ"), (0x32f0, "ムメモヤユヨラリルレロワヰヱヲ"),
  (0xa640, "ꙁꙁꙃꙃꙅꙅꙇꙇꙉꙉꙋꙋꙍꙍꙏꙏꙑꙑꙓꙓꙕꙕꙗꙗꙙꙙꙛꙛꙝꙝꙟꙟ"), (0xa660, "ꙡꙡꙣꙣꙥꙥꙧꙧꙩꙩꙫꙫꙭ"),
  (0xa680, "ꚁꚁꚃꚃꚅꚅꚇꚇꚉꚉꚋꚋꚍꚍꚏꚏꚑꚑꚓꚓꚕꚕꚗꚗꚙꚙꚛꚛъь"), (0xa722, "ꜣꜣꜥꜥꜧꜧꜩꜩꜫꜫꜭꜭꜯ"),
  (0xa732, "ꜳꜳꜵꜵꜷꜷꜹꜹꜻꜻꜽꜽꜿꜿꝁꝁꝃꝃꝅꝅꝇꝇꝉꝉꝋꝋꝍꝍꝏꝏꝑꝑ"), (0xa752, "ꝓꝓꝕꝕꝗꝗꝙꝙꝛꝛꝝꝝꝟꝟꝡꝡꝣꝣꝥꝥꝧꝧꝩꝩꝫꝫꝭꝭꝯꝯꝯ"),
  (0xa779, "ꝺꝺꝼꝼᵹꝿꝿꞁꞁꞃꞃꞅꞅꞇ"), (0xa78b, "ꞌꞌɥꞎꞏꞑꞑꞓ"), (0xa796, "ꞗꞗꞙꞙꞛꞛꞝꞝꞟꞟꞡꞡꞣꞣꞥꞥꞧꞧꞩꞩɦɜɡɬɪꞯʞʇʝꭓꞵꞵ"),
  (0xa7b6, "ꞷꞷꞹꞹꞻꞻꞽꞽꞿꞿꟁꟁꟃꟃꞔʂᶎꟈꟈꟊꟊɤꟍꟍ꟏꟏ꟑꟑꟓꟓꟕꟕ"), (0xa7d6, "ꟗꟗꟙꟙꟛꟛƛ"), (0xa7f1, "scfqꟶꟶꟷħœ"),
  (0xab5c, "ꜧꬷɫꭒ"), (0xab69, "ʍ"), (0xab70, "ᎠᎡᎢᎣᎤᎥᎦᎧᎨᎩᎪᎫᎬᎭᎮᎯᎰᎱᎲᎳᎴᎵᎶᎷᎸᎹᎺᎻᎼᎽᎾᎿ"),
  (0xab90, "ᏀᏁᏂᏃᏄᏅᏆᏇᏈᏉᏊᏋᏌᏍᏎᏏᏐᏑᏒᏓᏔᏕᏖᏗᏘᏙᏚᏛᏜᏝᏞᏟ"), (0xabb0, "ᏠᏡᏢᏣᏤᏥᏦᏧᏨᏩᏪᏫᏬᏭᏮᏯ"),
  (0xf900, "豈更車賈滑串句龜龜契金喇奈懶癩羅蘿螺裸邏樂洛烙珞落酪駱亂卵欄爛蘭"), (0xf920, "鸞嵐濫藍襤拉臘蠟廊朗浪狼郎來冷勞擄櫓爐盧老蘆虜路露魯鷺碌祿綠菉錄"),
  (0xf940, "鹿論壟弄籠聾牢磊賂雷壘屢樓淚漏累縷陋勒肋凜凌稜綾菱陵讀拏樂諾丹寧"), (0xf960, "怒率異北磻便復不泌數索參塞省葉說殺辰沈拾若掠略亮兩凉梁糧良諒量勵"),
  (0xf980, "呂女廬旅濾礪閭驪麗黎力曆歷轢年憐戀撚漣煉璉秊練聯輦蓮連鍊列劣咽烈"), (0xf9a0, "裂說廉念捻殮簾獵令囹寧嶺怜玲瑩羚聆鈴零靈領例禮醴隸惡了僚寮尿料樂"),
  (0xf9c0, "燎療蓼遼龍暈阮劉杻柳流溜琉留硫紐類六戮陸倫崙淪輪律慄栗率隆利吏履"), (0xf9e0, "易李梨泥理痢罹裏裡里離匿溺吝燐璘藺隣鱗麟林淋臨立笠粒狀炙識什茶刺"),
  (0xfa00, "切度拓糖宅洞暴輻行降見廓兀嗀﨎﨏塚﨑晴﨓﨔凞猪益礼神祥福靖精羽﨟"), (0xfa20, "蘒﨡諸﨣﨤逸都"),
  (0xfa2a, "飯飼館鶴郞隷侮僧免勉勤卑喝嘆器塀墨層屮悔慨憎懲敏既暑梅海渚漢煮爫"), (0xfa4a, "琢碑社祉祈祐祖祝禍禎穀突節練縉繁署者臭艹艹著褐視謁謹賓贈辶逸難響"),
  (0xfa6a, "頻恵𤋮舘"), (0xfa70, "並况全侀充冀勇勺喝啕喙嗢塚墳奄奔婢嬨廒廙彩徭惘慎愈憎慠懲戴揄搜摒"),
  (0xfa90, "敖晴朗望杖歹殺流滛滋漢瀞煮瞧爵犯猪瑱甆画瘝瘟益盛直睊着磌窱節类絛"), (0xfab0, "練缾者荒華蝹襁覆視調諸請謁諾諭謹變贈輸遲醙鉶陼難靖韛響頋頻鬒龜𢡊"),
  (0xfad0, "𢡄𣏕㮝䀘䀹𥉉𥳐𧻓齃龎"), (0xfb20, "\u05e2\u05d0\u05d3\u05d4\u05db\u05dc\u05dd\u05e8\u05ea+"),
  (0xfb50, "\u0671\u0671\u067b\u067b\u067b\u067b\u067e\u067e\u067e\u067e\u0680\u0680\u0680"),
  (0xfb5d, "\u0680\u067a\u067a\u067a\u067a\u067f\u067f\u067f\u067f\u0679\u0679\u0679\u0679"),
  (0xfb6a, "\u06a4\u06a4\u06a4\u06a4\u06a6\u06a6\u06a6\u06a6\u0684\u0684\u0684\u0684\u0683"),
  (0xfb77, "\u0683\u0683\u0683\u0686\u0686\u0686\u0686\u0687\u0687\u0687\u0687\u068d\u068d"),
  (0xfb84, "\u068c\u068c\u068e\u068e\u0688\u0688\u0698\u0698\u0691\u0691\u06a9\u06a9\u06a9"),
  (0xfb91, "\u06a9\u06af\u06af\u06af\u06af\u06b3\u06b3\u06b3\u06b3\u06b1\u06b1\u06b1\u06b1"),
  (0xfb9e, "\u06ba\u06ba\u06bb\u06bb\u06bb\u06bb\u06c0\u06c0\u06c1\u06c1\u06c1\u06c1\u06be"),
  (0xfbab, "\u06be\u06be\u06be\u06d2\u06d2\u06d3\u06d3"),
  (0xfbd3, "\u06ad\u06ad\u06ad\u06ad\u06c7\u06c7\u06c6\u06c6\u06c8\u06c8"),
  (0xfbde, "\u06cb\u06cb\u06c5\u06c5\u06c9\u06c9\u06d0\u06d0\u06d0\u06d0\u0649\u0649"),
  (0xfbfc, "\u06cc\u06cc\u06cc\u06cc"), (0xfe10, ",、"), (0xfe13, ":;!?〖〗"),
  (0xfe31, "—–__()\x7b\x7d〔〕【】《》〈〉「」『』﹅﹆[]"), (0xfe4d, "___,、"),
  (0xfe54, ";:?!—()\x7b\x7d〔〕#&*+-<>="), (0xfe68, "\\$%@"),
  (0xfe80, "\u0621\u0622\u0622\u0623\u0623\u0624\u0624\u0625\u0625\u0626\u0626\u0626\u0626"),
  (0xfe8d, "\u0627\u0627\u0628\u0628\u0628\u0628\u0629\u0629\u062a\u062a\u062a\u062a\u062b"),
  (0xfe9a, "\u062b\u062b\u062b\u062c\u062c\u062c\u062c\u062d\u062d\u062d\u062d\u062e\u062e"),
  (0xfea7, "\u062e\u062e\u062f\u062f\u0630\u0630\u0631\u0631\u0632\u0632\u0633\u0633\u0633"),
  (0xfeb4, "\u0633\u0634\u0634\u0634\u0634\u0635\u0635\u0635\u0635\u0636\u0636\u0636\u0636"),
  (0xfec1, "\u0637\u0637\u0637\u0637\u0638\u0638\u0638\u0638\u0639\u0639\u0639\u0639\u063a"),
  (0xfece, "\u063a\u063a\u063a\u0641\u0641\u0641\u0641\u0642\u0642\u0642\u0642\u0643\u0643"),
  (0xfedb, "\u0643\u0643\u0644\u0644\u0644\u0644\u0645\u0645\u0645\u0645\u0646\u0646\u0646"),
  (0xfee8, "\u0646\u0647\u0647\u0647\u0647\u0648\u0648\u0649\u0649\u064a\u064a\u064a\u064a"),
  (0xff01, "!\"#$%&'()*+,-./0123456789:;<=>?@"), (0xff21, "abcdefghijklmnopqrstuvwxyz[\\]^_\x60"),
  (0xff41, "abcdefghijklmnopqrstuvwxyz\x7b|\x7d~⦅⦆"), (0xff61, ".「」、・ヲァィゥェォャュョッーアイウエオカキクケコサシスセソタ"),
  (0xff81, "チツテトナニヌネノハヒフヘホマミムメモヤユヨラリルレロワン\u3099\u309a"), (0xffa1, "ᄀᄁᆪᄂᆬᆭᄃᄄᄅᆰᆱᆲᆳᆴᆵᄚᄆᄇᄈᄡᄉᄊᄋᄌᄍᄎᄏᄐᄑᄒ"),
  (0xffc2, "ᅡᅢᅣᅤᅥᅦ"), (0xffca, "ᅧᅨᅩᅪᅫᅬ"), (0xffd2, "ᅭᅮᅯᅰᅱᅲ"), (0xffda, "ᅳᅴᅵ"), (0xffe0, "¢£¬"),
  (0xffe4, "¦¥₩"), (0xffe8, "│←↑→↓■○"), (0x10400, "𐐨𐐩𐐪𐐫𐐬𐐭𐐮𐐯𐐰𐐱𐐲𐐳𐐴𐐵𐐶𐐷𐐸𐐹𐐺𐐻𐐼𐐽𐐾𐐿𐑀𐑁𐑂𐑃𐑄𐑅𐑆𐑇"),
  (0x10420, "𐑈𐑉𐑊𐑋𐑌𐑍𐑎𐑏"), (0x104b0, "𐓘𐓙𐓚𐓛𐓜𐓝𐓞𐓟𐓠𐓡𐓢𐓣𐓤𐓥𐓦𐓧𐓨𐓩𐓪𐓫𐓬𐓭𐓮𐓯𐓰𐓱𐓲𐓳𐓴𐓵𐓶𐓷"), (0x104d0, "𐓸𐓹𐓺𐓻"),
  (0x10570, "𐖗𐖘𐖙𐖚𐖛𐖜𐖝𐖞𐖟𐖠𐖡"), (0x1057c, "𐖣𐖤𐖥𐖦𐖧𐖨𐖩𐖪𐖫𐖬𐖭𐖮𐖯𐖰𐖱"), (0x1058c, "𐖳𐖴𐖵𐖶𐖷𐖸𐖹"), (0x10594, "𐖻𐖼"),
  (0x10781, "ːˑæʙɓ"), (0x10787, "ʣꭦʥʤɖɗᶑɘɞʩɤɢɠʛħʜɧʄʪʫɬ𝼄ꞎɮ𝼅ʎ𝼆øɶɷqɺ"), (0x107a7, "𝼈ɽɾʀʨʦꭧʧʈⱱ"),
  (0x107b2, "ʏʡʢʘǀǁǂ𝼊𝼞"), (0x10c80, "𐳀𐳁𐳂𐳃𐳄𐳅𐳆𐳇𐳈𐳉𐳊𐳋𐳌𐳍𐳎𐳏𐳐𐳑𐳒𐳓𐳔𐳕𐳖𐳗𐳘𐳙𐳚𐳛𐳜𐳝𐳞𐳟"),
  (0x10ca0, "𐳠𐳡𐳢𐳣𐳤𐳥𐳦𐳧𐳨𐳩𐳪𐳫𐳬𐳭𐳮𐳯𐳰𐳱𐳲"), (0x10d50, "𐵰𐵱𐵲𐵳𐵴𐵵𐵶𐵷𐵸𐵹𐵺𐵻𐵼𐵽𐵾𐵿𐶀𐶁𐶂𐶃𐶄𐶅"),
  (0x118a0, "𑣀𑣁𑣂𑣃𑣄𑣅𑣆𑣇𑣈𑣉𑣊𑣋𑣌𑣍𑣎𑣏𑣐𑣑𑣒𑣓𑣔𑣕𑣖𑣗𑣘𑣙𑣚𑣛𑣜𑣝𑣞𑣟"), (0x16e40, "𖹠𖹡𖹢𖹣𖹤𖹥𖹦𖹧𖹨𖹩𖹪𖹫𖹬𖹭𖹮𖹯𖹰𖹱𖹲𖹳𖹴𖹵𖹶𖹷𖹸𖹹𖹺𖹻𖹼𖹽𖹾𖹿"),
  (0x16ea0, "𖺻𖺼𖺽𖺾𖺿𖻀𖻁𖻂𖻃𖻄𖻅𖻆𖻇𖻈𖻉𖻊𖻋𖻌𖻍𖻎𖻏𖻐𖻑𖻒𖻓"), (0x1ccd6, "abcdefghijklmnopqrstuvwxyz012345"),
  (0x1ccf6, "6789"), (0x1d400, "abcdefghijklmnopqrstuvwxyzabcdef"),
  (0x1d420, "ghijklmnopqrstuvwxyzabcdefghijkl"), (0x1d440, "mnopqrstuvwxyzabcdefg"),
  (0x1d456, "ijklmnopqrstuvwxyzabcdefghijklmn"), (0x1d476, "opqrstuvwxyzabcdefghijklmnopqrst"),
  (0x1d496, "uvwxyza"), (0x1d49e, "cd"), (0x1d4a2, "g"), (0x1d4a5, "jk"), (0x1d4a9, "nopq"),
  (0x1d4ae, "stuvwxyzabcd"), (0x1d4bb, "f"), (0x1d4bd, "hijklmn"),
  (0x1d4c5, "pqrstuvwxyzabcdefghijklmnopqrstu"), (0x1d4e5, "vwxyzabcdefghijklmnopqrstuvwxyza"),
  (0x1d505, "b"), (0x1d507, "defg"), (0x1d50d, "jklmnopq"), (0x1d516, "stuvwxy"),
  (0x1d51e, "abcdefghijklmnopqrstuvwxyzab"), (0x1d53b, "defg"), (0x1d540, "ijklm"), (0x1d546, "o"),
  (0x1d54a, "stuvwxy"), (0x1d552, "abcdefghijklmnopqrstuvwxyzabcdef"),
  (0x1d572, "ghijklmnopqrstuvwxyzabcdefghijkl"), (0x1d592, "mnopqrstuvwxyzabcdefghijklmnopqr"),
  (0x1d5b2, "stuvwxyzabcdefghijklmnopqrstuvwx"), (0x1d5d2, "yzabcdefghijklmnopqrstuvwxyzabcd"),
  (0x1d5f2, "efghijklmnopqrstuvwxyzabcdefghij"), (0x1d612, "klmnopqrstuvwxyzabcdefghijklmnop"),
  (0x1d632, "qrstuvwxyzabcdefghijklmnopqrstuv"), (0x1d652, "wxyzabcdefghijklmnopqrstuvwxyzab"),
  (0x1d672, "cdefghijklmnopqrstuvwxyzabcdefgh"), (0x1d692, "ijklmnopqrstuvwxyzıȷ"),
  (0x1d6a8, "αβγδεζηθικλμνξοπρθστυφχψω∇αβγδεζ"), (0x1d6c8, "ηθικλμνξοπρσστυφχψω∂εθκφρπαβγδεζ"),
  (0x1d6e8, "ηθικλμνξοπρθστυφχψω∇αβγδεζηθικλμ"), (0x1d708, "νξοπρσστυφχψω∂εθκφρπαβγδεζηθικλμ"),
  (0x1d728, "νξοπρθστυφχψω∇αβγδεζηθικλμνξοπρσ"), (0x1d748, "στυφχψω∂εθκφρπαβγδεζηθικλμνξοπρθ"),
  (0x1d768, "στυφχψω∇αβγδεζηθικλμνξοπρσστυφχψ"), (0x1d788, "ω∂εθκφρπαβγδεζηθικλμνξοπρθστυφχψ"),
  (0x1d7a8, "ω∇αβγδεζηθικλμνξοπρσστυφχψω∂εθκφ"), (0x1d7c8, "ρπϝϝ"),
  (0x1d7ce, "01234567890123456789012345678901"), (0x1d7ee, "234567890123456789"),
  (0x1e030, "абвгдежзиклмопрстуфхцчшыэюꚉәіјөү"), (0x1e050, "ӏабвгдежзиклопсуфхцчшъыґіѕџҫꙑұ"),
  (0x1e900, "𞤢𞤣𞤤𞤥𞤦𞤧𞤨𞤩𞤪𞤫𞤬𞤭𞤮𞤯𞤰𞤱𞤲𞤳𞤴𞤵𞤶𞤷𞤸𞤹𞤺𞤻𞤼𞤽𞤾𞤿𞥀𞥁"), (0x1e920, "𞥂𞥃"),
  (0x1ee00, "\u0627\u0628\u062c\u062f"),
  (0x1ee05, "\u0648\u0632\u062d\u0637\u064a\u0643\u0644\u0645\u0646\u0633\u0639\u0641\u0635"),
  (0x1ee12, "\u0642\u0631\u0634\u062a\u062b\u062e\u0630\u0636\u0638\u063a\u066e\u06ba\u06a1"),
  (0x1ee1f, "\u066f"), (0x1ee21, "\u0628\u062c"), (0x1ee24, "\u0647"), (0x1ee27, "\u062d"),
  (0x1ee29, "\u064a\u0643\u0644\u0645\u0646\u0633\u0639\u0641\u0635\u0642"),
  (0x1ee34, "\u0634\u062a\u062b\u062e"), (0x1ee39, "\u0636"), (0x1ee3b, "\u063a"),
  (0x1ee42, "\u062c"), (0x1ee47, "\u062d"), (0x1ee49, "\u064a"), (0x1ee4b, "\u0644"),
  (0x1ee4d, "\u0646\u0633\u0639"), (0x1ee51, "\u0635\u0642"), (0x1ee54, "\u0634"),
  (0x1ee57, "\u062e"), (0x1ee59, "\u0636"), (0x1ee5b, "\u063a"), (0x1ee5d, "\u06ba"),
  (0x1ee5f, "\u066f"), (0x1ee61, "\u0628\u062c"), (0x1ee64, "\u0647"),
  (0x1ee67, "\u062d\u0637\u064a\u0643"), (0x1ee6c, "\u0645\u0646\u0633\u0639\u0641\u0635\u0642"),
  (0x1ee74, "\u0634\u062a\u062b\u062e"), (0x1ee79, "\u0636\u0638\u063a\u066e"), (0x1ee7e, "\u06a1"),
  (0x1ee80, "\u0627\u0628\u062c\u062f\u0647\u0648\u0632\u062d\u0637\u064a"),
  (0x1ee8b, "\u0644\u0645\u0646\u0633\u0639\u0641\u0635\u0642\u0631\u0634\u062a\u062b\u062e"),
  (0x1ee98, "\u0630\u0636\u0638\u063a"), (0x1eea1, "\u0628\u062c\u062f"),
  (0x1eea5, "\u0648\u0632\u062d\u0637\u064a"),
  (0x1eeab, "\u0644\u0645\u0646\u0633\u0639\u0641\u0635\u0642\u0631\u0634\u062a\u062b\u062e"),
  (0x1eeb8, "\u0630\u0636\u0638\u063a"), (0x1f12b, "cr"), (0x1f130, "abcdefghijklmnopqrstuvwxyz"),
  (0x1f202, "サ"), (0x1f210, "手字双デ二多解天交映無料前後再新初終生販声吹演投捕一三遊左中右指"), (0x1f230, "走打禁空合満有月申割営配"),
  (0x1f250, "得可"), (0x1fbf0, "0123456789"), (0x2f800, "丽丸乁𠄢你侮侻倂偺備僧像㒞𠘺免兔兤具𠔜㒹內再𠕋冗冤仌冬况𩇟凵刃㓟"),
  (0x2f820, "刻剆割剷㔕勇勉勤勺包匆北卉卑博即卽卿卿卿𠨬灰及叟𠭣叫叱吆咞吸呈周"), (0x2f840, "咢哶唐啓啣善善喙喫喳嗂圖嘆圗噑噴切壮城埴堍型堲報墬𡓤売壷夆多夢奢"),
  (0x2f860, "𡚨𡛪姬娛娧姘婦㛮㛼嬈嬾嬾𡧈寃寘寧寳𡬘寿将当尢㞁屠屮峀岍𡷤嵃𡷦嵮嵫"), (0x2f880, "嵼巡巢㠯巽帨帽幩㡢𢆃㡼庰庳庶廊𪎒廾𢌱𢌱舁弢弢㣇𣊸𦇚形彫㣣徚忍志忹"),
  (0x2f8a0, "悁㤺㤜悔𢛔惇慈慌慎慌慺憎憲憤憯懞懲懶成戛扝抱拔捐𢬌挽拼捨掃揤𢯱搢"), (0x2f8c0, "揅掩㨮摩摾撝摷㩬敏敬𣀊旣書晉㬙暑㬈㫤冒冕最暜肭䏙朗望朡杞杓𣏃㭉柺"),
  (0x2f8e0, "枅桒梅𣑭梎栟椔㮝楂榣槪檨𣚣櫛㰘次𣢧歔㱎歲殟殺殻𣪍𡴋𣫺汎𣲼沿泍汧洖"), (0x2f900, "派海流浩浸涅𣴞洴港湮㴳滋滇𣻑淹潮𣽞𣾎濆瀹瀞瀛㶖灊災灷炭𠔥煅𤉣熜𤎫"),
  (0x2f920, "爨爵牐𤘈犀犕𤜵𤠔獺王㺬玥㺸㺸瑇瑜瑱璅瓊㼛甤𤰶甾𤲒異𢆟瘐𤾡𤾸𥁄㿼䀈"), (0x2f940, "直𥃳𥃲𥄙𥄳眞真真睊䀹瞋䁆䂖𥐝硎碌磌䃣𥘦祖𥚚𥛅福秫䄯穀穊穏𥥼𥪧𥪧竮"),
  (0x2f960, "䈂𥮫篆築䈧𥲀糒䊠糨糣紀𥾆絣䌁緇縂繅䌴𦈨𦉇䍙𦋙罺𦌾羕翺者𦓚𦔣聠𦖨聰"), (0x2f980, "𣍟䏕育脃䐋脾媵𦞧𦞵𣎓𣎜舁舄辞䑫芑芋芝劳花芳芽苦𦬼若茝荣莭茣莽菧著"),
  (0x2f9a0, "荓菊菌菜𦰶𦵫𦳕䔫蓱蓳蔖𧏊蕤𦼬䕝䕡𦾱𧃒䕫虐虜虧虩蚩蚈蜎蛢蝹蜨蝫螆䗗"), (0x2f9c0, "蟡蠁䗹衠衣𧙧裗裞䘵裺㒻𧢮𧥦䚾䛇誠諭變豕𧲨貫賁贛起𧼯𠠄跋趼跰𠣞軔輸"),
  (0x2f9e0, "𨗒𨗭邔郱鄑𨜮鄛鈸鋗鋘鉼鏹鐕𨯺開䦕閷𨵷䧦雃嶲霣𩅅𩈚䩮䩶韠𩐊䪲𩒖頋頋"), (0x2fa00, "頩𩖶飢䬳餩馧駂駾䯎𩬰鬒鱀鳽䳎䳭鵧𪃎䳸𪄅𪈎𪊑麻䵖黹黾鼅鼏鼖鼻𪘀")]

end Catalog.DomainName
