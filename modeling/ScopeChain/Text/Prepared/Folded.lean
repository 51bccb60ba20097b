/-
Folded characters: texts in which case, width and other forms of a character are one.

Each character has an image of characters that are their own images.  Letters with marks are
letters and marks there, and characters that only guide the display of others are nothing.
-/
namespace ScopeChain
namespace Prepared

/-- Images of one character: the first code point of a run, and the images from there on. -/
def oneImages : List (Nat × String) := [
  (0x41, "abcdefghijklmnopqrstuvwxyz"), (0xA0, " "), (0xAA, "a"), (0xB2, "23"), (0xB5, "μ"),
  (0xB9, "1o"), (0xC6, "æ"), (0xD0, "ð"), (0xD8, "ø"), (0xDE, "þ"), (0x110, "đ"), (0x126, "ħ"),
  (0x141, "ł"), (0x14A, "ŋ"), (0x152, "œ"), (0x166, "ŧ"), (0x17F, "s"), (0x181, "ɓƃ"),
  (0x184, "ƅ"), (0x186, "ɔƈ"), (0x189, "ɖɗƌ"), (0x18E, "ǝəɛƒ"), (0x193, "ɠɣ"), (0x196, "ɩɨƙ"),
  (0x19C, "ɯɲ"), (0x19F, "ɵ"), (0x1A2, "ƣ"), (0x1A4, "ƥ"), (0x1A6, "ʀƨ"), (0x1A9, "ʃ"),
  (0x1AC, "ƭ"), (0x1AE, "ʈ"), (0x1B1, "ʊʋƴ"), (0x1B5, "ƶ"), (0x1B7, "ʒƹ"), (0x1BC, "ƽ"),
  (0x1E4, "ǥ"), (0x1F6, "ƕƿ"), (0x21C, "ȝ"), (0x220, "ƞ"), (0x222, "ȣ"), (0x224, "ȥ"),
  (0x23A, "ⱥȼ"), (0x23D, "ƚⱦ"), (0x241, "ɂ"), (0x243, "ƀʉʌɇ"), (0x248, "ɉ"), (0x24A, "ɋ"),
  (0x24C, "ɍ"), (0x24E, "ɏ"), (0x2B0, "hɦjrɹɻʁwy"), (0x2E0, "ɣlsxʕ"), (0x340, "\u0300\u0301"),
  (0x343, "\u0313"), (0x345, "ι"), (0x370, "ͱ"), (0x372, "ͳ"), (0x374, "ʹ"), (0x376, "ͷ"),
  (0x37E, ";ϳ"), (0x387, "·"), (0x391, "αβγδεζηθικλμνξοπρ"), (0x3A3, "στυφχψω"), (0x3C2, "σ"),
  (0x3CF, "ϗβθυ"), (0x3D5, "φπ"), (0x3D8, "ϙ"), (0x3DA, "ϛ"), (0x3DC, "ϝ"), (0x3DE, "ϟ"),
  (0x3E0, "ϡ"), (0x3E2, "ϣ"), (0x3E4, "ϥ"), (0x3E6, "ϧ"), (0x3E8, "ϩ"), (0x3EA, "ϫ"),
  (0x3EC, "ϭ"), (0x3EE, "ϯ"), (0x3F0, "κρσ"), (0x3F4, "θε"), (0x3F7, "ϸ"), (0x3F9, "σϻ"),
  (0x3FD, "ͻͼͽ"), (0x402, "ђ"), (0x404, "єѕі"), (0x408, "јљњћ"), (0x40F, "џабвгдежзи"),
  (0x41A, "клмнопрстуфхцчшщъыьэюя"), (0x460, "ѡ"), (0x462, "ѣ"), (0x464, "ѥ"), (0x466, "ѧ"),
  (0x468, "ѩ"), (0x46A, "ѫ"), (0x46C, "ѭ"), (0x46E, "ѯ"), (0x470, "ѱ"), (0x472, "ѳ"),
  (0x474, "ѵ"), (0x478, "ѹ"), (0x47A, "ѻ"), (0x47C, "ѽ"), (0x47E, "ѿ"), (0x480, "ҁ"),
  (0x48A, "ҋ"), (0x48C, "ҍ"), (0x48E, "ҏ"), (0x490, "ґ"), (0x492, "ғ"), (0x494, "ҕ"),
  (0x496, "җ"), (0x498, "ҙ"), (0x49A, "қ"), (0x49C, "ҝ"), (0x49E, "ҟ"), (0x4A0, "ҡ"),
  (0x4A2, "ң"), (0x4A4, "ҥ"), (0x4A6, "ҧ"), (0x4A8, "ҩ"), (0x4AA, "ҫ"), (0x4AC, "ҭ"),
  (0x4AE, "ү"), (0x4B0, "ұ"), (0x4B2, "ҳ"), (0x4B4, "ҵ"), (0x4B6, "ҷ"), (0x4B8, "ҹ"),
  (0x4BA, "һ"), (0x4BC, "ҽ"), (0x4BE, "ҿ"), (0x4C0, "ӏ"), (0x4C3, "ӄ"), (0x4C5, "ӆ"),
  (0x4C7, "ӈ"), (0x4C9, "ӊ"), (0x4CB, "ӌ"), (0x4CD, "ӎ"), (0x4D4, "ӕ"), (0x4D8, "ә"),
  (0x4E0, "ӡ"), (0x4E8, "ө"), (0x4F6, "ӷ"), (0x4FA, "ӻ"), (0x4FC, "ӽ"), (0x4FE, "ӿ"),
  (0x500, "ԁ"), (0x502, "ԃ"), (0x504, "ԅ"), (0x506, "ԇ"), (0x508, "ԉ"), (0x50A, "ԋ"),
  (0x50C, "ԍ"), (0x50E, "ԏ"), (0x510, "ԑ"), (0x512, "ԓ"), (0x514, "ԕ"), (0x516, "ԗ"),
  (0x518, "ԙ"), (0x51A, "ԛ"), (0x51C, "ԝ"), (0x51E, "ԟ"), (0x520, "ԡ"), (0x522, "ԣ"),
  (0x524, "ԥ"), (0x526, "ԧ"), (0x528, "ԩ"), (0x52A, "ԫ"), (0x52C, "ԭ"), (0x52E, "ԯ"),
  (0x531, "աբգդեզէըթժիլխծկհձղճմյնշոչպջռսվտրցւփքօֆ"), (0xF0C, "་"),
  (0x10A0, "ⴀⴁⴂⴃⴄⴅⴆⴇⴈⴉⴊⴋⴌⴍⴎⴏⴐⴑⴒⴓⴔⴕⴖⴗⴘⴙⴚⴛⴜⴝⴞⴟⴠⴡⴢⴣⴤⴥ"), (0x10C7, "ⴧ"), (0x10CD, "ⴭ"),
  (0x13A0, "ꭰꭱꭲꭳꭴꭵꭶꭷꭸꭹꭺꭻꭼꭽꭾꭿꮀꮁꮂꮃꮄꮅꮆꮇꮈꮉꮊꮋꮌꮍꮎꮏꮐꮑꮒꮓꮔꮕꮖꮗꮘꮙꮚꮛꮜꮝꮞꮟ"),
  (0x13D0, "ꮠꮡꮢꮣꮤꮥꮦꮧꮨꮩꮪꮫꮬꮭꮮꮯꮰꮱꮲꮳꮴꮵꮶꮷꮸꮹꮺꮻꮼꮽꮾꮿᏸᏹᏺᏻᏼᏽ"),
  (0x1C90, "აბგდევზთიკლმნოპჟრსტუფქღყშჩცძწჭხჯჰჱჲჳჴჵჶჷჸჹჺ"), (0x1CBD, "ჽჾჿ"), (0x1EFA, "ỻ"),
  (0x1EFC, "ỽ"), (0x1EFE, "ỿ"), (0x1FBE, "ι"), (0x1FEF, "\x60"), (0x2000, "           "),
  (0x2011, "‐"), (0x2024, "."), (0x202F, " "), (0x205F, " "), (0x2070, "0i"),
  (0x2074, "456789+−=()n0123456789+−=()"), (0x2102, "c"), (0x2107, "ɛ"), (0x210A, "ghhhhħiill"),
  (0x2115, "n"), (0x2119, "pqrrr"), (0x2124, "z"), (0x2126, "ω"), (0x2128, "z"), (0x212A, "k"),
  (0x212C, "bc"), (0x212F, "eefⅎmo\u05d0\u05d1\u05d2\u05d3i"), (0x213D, "γγπ∑"),
  (0x2145, "ddeij"), (0x2160, "i"), (0x2164, "v"), (0x2169, "x"), (0x216C, "lcdmi"),
  (0x2174, "v"), (0x2179, "x"), (0x217C, "lcdm"), (0x2183, "ↄ"), (0x2329, "〈〉"),
  (0x2460, "123456789"), (0x24B6, "abcdefghijklmnopqrstuvwxyzabcdefghijklmnopqrstuv"),
  (0x24E6, "wxyz0"), (0x2C00, "ⰰⰱⰲⰳⰴⰵⰶⰷⰸⰹⰺⰻⰼⰽⰾⰿⱀⱁⱂⱃⱄⱅⱆⱇⱈⱉⱊⱋⱌⱍⱎⱏⱐⱑⱒⱓⱔⱕⱖⱗⱘⱙⱚⱛⱜⱝⱞⱟ"), (0x2C60, "ⱡ"),
  (0x2C62, "ɫᵽɽ"), (0x2C67, "ⱨ"), (0x2C69, "ⱪ"), (0x2C6B, "ⱬ"), (0x2C6D, "ɑɱɐɒ"), (0x2C72, "ⱳ"),
  (0x2C75, "ⱶ"), (0x2C7E, "ȿɀⲁ"), (0x2C82, "ⲃ"), (0x2C84, "ⲅ"), (0x2C86, "ⲇ"), (0x2C88, "ⲉ"),
  (0x2C8A, "ⲋ"), (0x2C8C, "ⲍ"), (0x2C8E, "ⲏ"), (0x2C90, "ⲑ"), (0x2C92, "ⲓ"), (0x2C94, "ⲕ"),
  (0x2C96, "ⲗ"), (0x2C98, "ⲙ"), (0x2C9A, "ⲛ"), (0x2C9C, "ⲝ"), (0x2C9E, "ⲟ"), (0x2CA0, "ⲡ"),
  (0x2CA2, "ⲣ"), (0x2CA4, "ⲥ"), (0x2CA6, "ⲧ"), (0x2CA8, "ⲩ"), (0x2CAA, "ⲫ"), (0x2CAC, "ⲭ"),
  (0x2CAE, "ⲯ"), (0x2CB0, "ⲱ"), (0x2CB2, "ⲳ"), (0x2CB4, "ⲵ"), (0x2CB6, "ⲷ"), (0x2CB8, "ⲹ"),
  (0x2CBA, "ⲻ"), (0x2CBC, "ⲽ"), (0x2CBE, "ⲿ"), (0x2CC0, "ⳁ"), (0x2CC2, "ⳃ"), (0x2CC4, "ⳅ"),
  (0x2CC6, "ⳇ"), (0x2CC8, "ⳉ"), (0x2CCA, "ⳋ"), (0x2CCC, "ⳍ"), (0x2CCE, "ⳏ"), (0x2CD0, "ⳑ"),
  (0x2CD2, "ⳓ"), (0x2CD4, "ⳕ"), (0x2CD6, "ⳗ"), (0x2CD8, "ⳙ"), (0x2CDA, "ⳛ"), (0x2CDC, "ⳝ"),
  (0x2CDE, "ⳟ"), (0x2CE0, "ⳡ"), (0x2CE2, "ⳣ"), (0x2CEB, "ⳬ"), (0x2CED, "ⳮ"), (0x2CF2, "ⳳ"),
  (0x2E9F, "母"), (0x2EF3, "龟"),
  (0x2F00, "一丨丶丿乙亅二亠人儿入八冂冖冫几凵刀力勹匕匚匸十卜卩厂厶又口囗土士夂夊夕大女子宀寸小尢尸屮山巛工"),
  (0x2F30, "己巾干幺广廴廾弋弓彐彡彳心戈戶手支攴文斗斤方无日曰月木欠止歹殳毋比毛氏气水火爪父爻爿片牙牛犬玄玉"),
  (0x2F60, "瓜瓦甘生用田疋疒癶白皮皿目矛矢石示禸禾穴立竹米糸缶网羊羽老而耒耳聿肉臣自至臼舌舛舟艮色艸虍虫血行"),
  (0x2F90, "衣襾見角言谷豆豕豸貝赤走足身車辛辰辵邑酉釆里金長門阜隶隹雨靑非面革韋韭音頁風飛食首香馬骨高髟鬥鬯"),
  (0x2FC0, "鬲鬼魚鳥鹵鹿麥麻黃黍黑黹黽鼎鼓鼠鼻齊齒龍龜龠"), (0x3000, " "), (0x3036, "〒"),
  (0x3038, "十卄卅"),
  (0x3131, "\u1100\u1101\u11aa\u1102\u11ac\u11ad\u1103\u1104\u1105\u11b0\u11b1\u11b2\u11b3\u11b4\u11b5\u111a\u1106\u1107\u1108\u1121\u1109\u110a\u110b\u110c\u110d\u110e\u110f\u1110\u1111\u1112\u1161\u1162\u1163\u1164\u1165\u1166\u1167\u1168\u1169\u116a\u116b\u116c\u116d\u116e\u116f\u1170\u1171\u1172"),
  (0x3161, "\u1173\u1174\u1175\u1160\u1114\u1115\u11c7\u11c8\u11cc\u11ce\u11d3\u11d7\u11d9\u111c\u11dd\u11df\u111d\u111e\u1120\u1122\u1123\u1127\u1129\u112b\u112c\u112d\u112e\u112f\u1132\u1136\u1140\u1147\u114c\u11f1\u11f2\u1157\u1158\u1159\u1184\u1185\u1188\u1191\u1192\u1194\u119e\u11a1"),
  (0x3192, "一二三四上中下甲乙丙丁天地人"),
  (0x3260, "\u1100\u1102\u1103\u1105\u1106\u1107\u1109\u110b\u110c\u110e\u110f\u1110\u1111\u1112"),
  (0x3280, "一二三四五六七八九十月火水木金土日株有社名特財祝労秘男女適優印注項休写正上中下左右医宗学監企資協"),
  (0x32B0, "夜"),
  (0x32D0, "アイウエオカキクケコサシスセソタチツテトナニヌネノハヒフヘホマミムメモヤユヨラリルレロワヰヱヲ"),
  (0xA640, "ꙁ"), (0xA642, "ꙃ"), (0xA644, "ꙅ"), (0xA646, "ꙇ"), (0xA648, "ꙉ"), (0xA64A, "ꙋ"),
  (0xA64C, "ꙍ"), (0xA64E, "ꙏ"), (0xA650, "ꙑ"), (0xA652, "ꙓ"), (0xA654, "ꙕ"), (0xA656, "ꙗ"),
  (0xA658, "ꙙ"), (0xA65A, "ꙛ"), (0xA65C, "ꙝ"), (0xA65E, "ꙟ"), (0xA660, "ꙡ"), (0xA662, "ꙣ"),
  (0xA664, "ꙥ"), (0xA666, "ꙧ"), (0xA668, "ꙩ"), (0xA66A, "ꙫ"), (0xA66C, "ꙭ"), (0xA680, "ꚁ"),
  (0xA682, "ꚃ"), (0xA684, "ꚅ"), (0xA686, "ꚇ"), (0xA688, "ꚉ"), (0xA68A, "ꚋ"), (0xA68C, "ꚍ"),
  (0xA68E, "ꚏ"), (0xA690, "ꚑ"), (0xA692, "ꚓ"), (0xA694, "ꚕ"), (0xA696, "ꚗ"), (0xA698, "ꚙ"),
  (0xA69A, "ꚛ"), (0xA722, "ꜣ"), (0xA724, "ꜥ"), (0xA726, "ꜧ"), (0xA728, "ꜩ"), (0xA72A, "ꜫ"),
  (0xA72C, "ꜭ"), (0xA72E, "ꜯ"), (0xA732, "ꜳ"), (0xA734, "ꜵ"), (0xA736, "ꜷ"), (0xA738, "ꜹ"),
  (0xA73A, "ꜻ"), (0xA73C, "ꜽ"), (0xA73E, "ꜿ"), (0xA740, "ꝁ"), (0xA742, "ꝃ"), (0xA744, "ꝅ"),
  (0xA746, "ꝇ"), (0xA748, "ꝉ"), (0xA74A, "ꝋ"), (0xA74C, "ꝍ"), (0xA74E, "ꝏ"), (0xA750, "ꝑ"),
  (0xA752, "ꝓ"), (0xA754, "ꝕ"), (0xA756, "ꝗ"), (0xA758, "ꝙ"), (0xA75A, "ꝛ"), (0xA75C, "ꝝ"),
  (0xA75E, "ꝟ"), (0xA760, "ꝡ"), (0xA762, "ꝣ"), (0xA764, "ꝥ"), (0xA766, "ꝧ"), (0xA768, "ꝩ"),
  (0xA76A, "ꝫ"), (0xA76C, "ꝭ"), (0xA76E, "ꝯ"), (0xA779, "ꝺ"), (0xA77B, "ꝼ"), (0xA77D, "ᵹꝿ"),
  (0xA780, "ꞁ"), (0xA782, "ꞃ"), (0xA784, "ꞅ"), (0xA786, "ꞇ"), (0xA78B, "ꞌ"), (0xA78D, "ɥ"),
  (0xA790, "ꞑ"), (0xA792, "ꞓ"), (0xA796, "ꞗ"), (0xA798, "ꞙ"), (0xA79A, "ꞛ"), (0xA79C, "ꞝ"),
  (0xA79E, "ꞟ"), (0xA7A0, "ꞡ"), (0xA7A2, "ꞣ"), (0xA7A4, "ꞥ"), (0xA7A6, "ꞧ"), (0xA7A8, "ꞩ"),
  (0xA7AA, "ɦɜɡɬɪ"), (0xA7B0, "ʞʇʝꭓꞵ"), (0xA7B6, "ꞷ"), (0xA7B8, "ꞹ"), (0xA7BA, "ꞻ"),
  (0xA7BC, "ꞽ"), (0xA7BE, "ꞿ"), (0xA7C0, "ꟁ"), (0xA7C2, "ꟃ"), (0xA7C4, "ꞔʂᶎꟈ"), (0xA7C9, "ꟊ"),
  (0xA7D0, "ꟑ"), (0xA7D6, "ꟗ"), (0xA7D8, "ꟙ"), (0xA7F5, "ꟶ"),
  (0xF900, "豈更車賈滑串句龜龜契金喇奈懶癩羅蘿螺裸邏樂洛烙珞落酪駱亂卵欄爛蘭鸞嵐濫藍襤拉臘蠟廊朗浪狼郎來冷勞"),
  (0xF930, "擄櫓爐盧老蘆虜路露魯鷺碌祿綠菉錄鹿論壟弄籠聾牢磊賂雷壘屢樓淚漏累縷陋勒肋凜凌稜綾菱陵讀拏樂諾丹寧"),
  (0xF960, "怒率異北磻便復不泌數索參塞省葉說殺辰沈拾若掠略亮兩凉梁糧良諒量勵呂女廬旅濾礪閭驪麗黎力曆歷轢年憐"),
  (0xF990, "戀撚漣煉璉秊練聯輦蓮連鍊列劣咽烈裂說廉念捻殮簾獵令囹寧嶺怜玲瑩羚聆鈴零靈領例禮醴隸惡了僚寮尿料樂"),
  (0xF9C0, "燎療蓼遼龍暈阮劉杻柳流溜琉留硫紐類六戮陸倫崙淪輪律慄栗率隆利吏履易李梨泥理痢罹裏裡里離匿溺吝燐璘"),
  (0xF9F0, "藺隣鱗麟林淋臨立笠粒狀炙識什茶刺切度拓糖宅洞暴輻行降見廓兀嗀"), (0xFA10, "塚"),
  (0xFA12, "晴"), (0xFA15, "凞猪益礼神祥福靖精羽"), (0xFA20, "蘒"), (0xFA22, "諸"),
  (0xFA25, "逸都"), (0xFA2A, "飯飼館鶴"),
  (0xFA30, "侮僧免勉勤卑喝嘆器塀墨層屮悔慨憎懲敏既暑梅海渚漢煮爫琢碑社祉祈祐祖祝禍禎穀突節練縉繁署者臭艹艹著"),
  (0xFA60, "褐視謁謹賓贈辶逸難響頻"),
  (0xFB20, "\u05e2\u05d0\u05d3\u05d4\u05db\u05dc\u05dd\u05e8\u05ea+"),
  (0xFB50, "\u0671\u0671\u067b\u067b\u067b\u067b\u067e\u067e\u067e\u067e\u0680\u0680\u0680\u0680\u067a\u067a\u067a\u067a\u067f\u067f\u067f\u067f\u0679\u0679\u0679\u0679\u06a4\u06a4\u06a4\u06a4\u06a6\u06a6\u06a6\u06a6\u0684\u0684\u0684\u0684\u0683\u0683\u0683\u0683\u0686\u0686\u0686\u0686\u0687\u0687"),
  (0xFB80, "\u0687\u0687\u068d\u068d\u068c\u068c\u068e\u068e\u0688\u0688\u0698\u0698\u0691\u0691\u06a9\u06a9\u06a9\u06a9\u06af\u06af\u06af\u06af\u06b3\u06b3\u06b3\u06b3\u06b1\u06b1\u06b1\u06b1\u06ba\u06ba\u06bb\u06bb\u06bb\u06bb"),
  (0xFBA6, "\u06c1\u06c1\u06c1\u06c1\u06be\u06be\u06be\u06be\u06d2\u06d2"),
  (0xFBD3, "\u06ad\u06ad\u06ad\u06ad\u06c7\u06c7\u06c6\u06c6\u06c8\u06c8"),
  (0xFBDE, "\u06cb\u06cb\u06c5\u06c5\u06c9\u06c9\u06d0\u06d0\u06d0\u06d0\u0649\u0649"),
  (0xFBFC, "\u06cc\u06cc\u06cc\u06cc"), (0xFE31, "—–__()\x7b\x7d〔〕【】《》〈〉「」『』"),
  (0xFE4D, "___,、."), (0xFE54, ";:?!—()\x7b\x7d〔〕#&*+\x2d<>="), (0xFE68, "\x5c$%@"),
  (0xFE80, "\u0621"),
  (0xFE8D, "\u0627\u0627\u0628\u0628\u0628\u0628\u0629\u0629\u062a\u062a\u062a\u062a\u062b\u062b\u062b\u062b\u062c\u062c\u062c\u062c\u062d\u062d\u062d\u062d\u062e\u062e\u062e\u062e\u062f\u062f\u0630\u0630\u0631\u0631\u0632\u0632\u0633\u0633\u0633\u0633\u0634\u0634\u0634\u0634\u0635\u0635\u0635\u0635"),
  (0xFEBD, "\u0636\u0636\u0636\u0636\u0637\u0637\u0637\u0637\u0638\u0638\u0638\u0638\u0639\u0639\u0639\u0639\u063a\u063a\u063a\u063a\u0641\u0641\u0641\u0641\u0642\u0642\u0642\u0642\u0643\u0643\u0643\u0643\u0644\u0644\u0644\u0644\u0645\u0645\u0645\u0645\u0646\u0646\u0646\u0646\u0647\u0647\u0647\u0647"),
  (0xFEED, "\u0648\u0648\u0649\u0649\u064a\u064a\u064a\u064a"),
  (0xFF01, "!\x22#$%&'()*+,\x2d.\x2f0123456789:;<=>?@abcdefghijklmnop"),
  (0xFF31, "qrstuvwxyz[\x5c]^_\x60abcdefghijklmnopqrstuvwxyz\x7b|\x7d~⦅⦆"),
  (0xFF61, "。「」、・ヲァィゥェォャュョッーアイウエオカキクケコサシスセソタチツテトナニヌネノハヒフヘホマミ"),
  (0xFF91, "ムメモヤユヨラリルレロワン\u3099\u309a\u1160\u1100\u1101\u11aa\u1102\u11ac\u11ad\u1103\u1104\u1105\u11b0\u11b1\u11b2\u11b3\u11b4\u11b5\u111a\u1106\u1107\u1108\u1121\u1109\u110a\u110b\u110c\u110d\u110e\u110f\u1110\u1111\u1112"),
  (0xFFC2, "\u1161\u1162\u1163\u1164\u1165\u1166"),
  (0xFFCA, "\u1167\u1168\u1169\u116a\u116b\u116c"),
  (0xFFD2, "\u116d\u116e\u116f\u1170\u1171\u1172"), (0xFFDA, "\u1173\u1174\u1175"),
  (0xFFE0, "¢£¬"), (0xFFE4, "¦¥₩"), (0xFFE8, "│←↑→↓■○"),
  (0x10400, "𐐨𐐩𐐪𐐫𐐬𐐭𐐮𐐯𐐰𐐱𐐲𐐳𐐴𐐵𐐶𐐷𐐸𐐹𐐺𐐻𐐼𐐽𐐾𐐿𐑀𐑁𐑂𐑃𐑄𐑅𐑆𐑇𐑈𐑉𐑊𐑋𐑌𐑍𐑎𐑏"),
  (0x104B0, "𐓘𐓙𐓚𐓛𐓜𐓝𐓞𐓟𐓠𐓡𐓢𐓣𐓤𐓥𐓦𐓧𐓨𐓩𐓪𐓫𐓬𐓭𐓮𐓯𐓰𐓱𐓲𐓳𐓴𐓵𐓶𐓷𐓸𐓹𐓺𐓻"), (0x10570, "𐖗𐖘𐖙𐖚𐖛𐖜𐖝𐖞𐖟𐖠𐖡"),
  (0x1057C, "𐖣𐖤𐖥𐖦𐖧𐖨𐖩𐖪𐖫𐖬𐖭𐖮𐖯𐖰𐖱"), (0x1058C, "𐖳𐖴𐖵𐖶𐖷𐖸𐖹"), (0x10594, "𐖻𐖼"),
  (0x10C80, "𐳀𐳁𐳂𐳃𐳄𐳅𐳆𐳇𐳈𐳉𐳊𐳋𐳌𐳍𐳎𐳏𐳐𐳑𐳒𐳓𐳔𐳕𐳖𐳗𐳘𐳙𐳚𐳛𐳜𐳝𐳞𐳟𐳠𐳡𐳢𐳣𐳤𐳥𐳦𐳧𐳨𐳩𐳪𐳫𐳬𐳭𐳮𐳯"), (0x10CB0, "𐳰𐳱𐳲"),
  (0x118A0, "𑣀𑣁𑣂𑣃𑣄𑣅𑣆𑣇𑣈𑣉𑣊𑣋𑣌𑣍𑣎𑣏𑣐𑣑𑣒𑣓𑣔𑣕𑣖𑣗𑣘𑣙𑣚𑣛𑣜𑣝𑣞𑣟"), (0x16E40, "𖹠𖹡𖹢𖹣𖹤𖹥𖹦𖹧𖹨𖹩𖹪𖹫𖹬𖹭𖹮𖹯𖹰𖹱𖹲𖹳𖹴𖹵𖹶𖹷𖹸𖹹𖹺𖹻𖹼𖹽𖹾𖹿"),
  (0x1D400, "abcdefghijklmnopqrstuvwxyzabcdefghijklmnopqrstuv"),
  (0x1D430, "wxyzabcdefghijklmnopqrstuvwxyzabcdefg"),
  (0x1D456, "ijklmnopqrstuvwxyzabcdefghijklmnopqrstuvwxyzabcd"),
  (0x1D486, "efghijklmnopqrstuvwxyza"), (0x1D49E, "cd"), (0x1D4A2, "g"), (0x1D4A5, "jk"),
  (0x1D4A9, "nopq"), (0x1D4AE, "stuvwxyzabcd"), (0x1D4BB, "f"), (0x1D4BD, "hijk"),
  (0x1D4C2, "mn"), (0x1D4C5, "pqrstuvwxyzabcdefghijklmnopqrstuvwxyzabcdefghijk"),
  (0x1D4F5, "lmnopqrstuvwxyzab"), (0x1D507, "defg"), (0x1D50D, "jklmnopq"), (0x1D516, "stuvwxy"),
  (0x1D51E, "abcdefghijklmnopqrstuvwxyzab"), (0x1D53B, "defg"), (0x1D540, "ijklm"),
  (0x1D546, "o"), (0x1D54A, "stuvwxy"),
  (0x1D552, "abcdefghijklmnopqrstuvwxyzabcdefghijklmnopqrstuv"),
  (0x1D582, "wxyzabcdefghijklmnopqrstuvwxyzabcdefghijklmnopqr"),
  (0x1D5B2, "stuvwxyzabcdefghijklmnopqrstuvwxyzabcdefghijklmn"),
  (0x1D5E2, "opqrstuvwxyzabcdefghijklmnopqrstuvwxyzabcdefghij"),
  (0x1D612, "klmnopqrstuvwxyzabcdefghijklmnopqrstuvwxyzabcdef"),
  (0x1D642, "ghijklmnopqrstuvwxyzabcdefghijklmnopqrstuvwxyzab"),
  (0x1D672, "cdefghijklmnopqrstuvwxyzabcdefghijklmnopqrstuvwx"), (0x1D6A2, "yz"),
  (0x1D6A8, "αβγδεζηθικλμνξοπρθστυφχψω∇αβγδεζηθικλμνξοπρσστυφ"),
  (0x1D6D8, "χψω∂εθκφρπαβγδεζηθικλμνξοπρθστυφχψω∇αβγδεζηθικλμ"),
  (0x1D708, "νξοπρσστυφχψω∂εθκφρπαβγδεζηθικλμνξοπρθστυφχψω∇αβ"),
  (0x1D738, "γδεζηθικλμνξοπρσστυφχψω∂εθκφρπαβγδεζηθικλμνξοπρθ"),
  (0x1D768, "στυφχψω∇αβγδεζηθικλμνξοπρσστυφχψω∂εθκφρπαβγδεζηθ"),
  (0x1D798, "ικλμνξοπρθστυφχψω∇αβγδεζηθικλμνξοπρσστυφχψω∂εθκφ"), (0x1D7C8, "ρπ"),
  (0x1D7CE, "012345678901234567890123456789012345678901234567"), (0x1D7FE, "89"),
  (0x1E900, "𞤢𞤣𞤤𞤥𞤦𞤧𞤨𞤩𞤪𞤫𞤬𞤭𞤮𞤯𞤰𞤱𞤲𞤳𞤴𞤵𞤶𞤷𞤸𞤹𞤺𞤻𞤼𞤽𞤾𞤿𞥀𞥁𞥂𞥃"),
  (0x2F800, "丽丸乁𠄢你侮侻倂偺備僧像㒞𠘺免兔兤具𠔜㒹內再𠕋冗冤仌冬况𩇟凵刃㓟刻剆割剷㔕勇勉勤勺包匆北卉卑博即"),
  (0x2F830, "卽卿卿卿𠨬灰及叟𠭣叫叱吆咞吸呈周咢哶唐啓啣善善喙喫喳嗂圖嘆圗噑噴切壮城埴堍型堲報墬𡓤売壷夆多夢奢"),
  (0x2F860, "𡚨𡛪姬娛娧姘婦㛮𡍪嬈嬾嬾𡧈寃寘寧寳𡬘寿将弳尢㞁屠屮峀岍𡷤嵃𡷦嵮嵫嵼巡巢㠯巽帨帽幩㡢𢆃㡼庰庳庶廊𪎒"),
  (0x2F890, "廾𢌱𢌱舁弢弢㣇𣊸𦇚形彫㣣徚忍志忹悁㤺㤜悔𢛔惇慈慌慎慌慺憎憲憤憯懞懲懶成戛扝抱拔捐𢬌挽拼捨掃揤𢯱搢"),
  (0x2F8C0, "揅掩㨮摩摾撝摷㩬敏敬𣀊旣書晉㬙暑㬈㫤冒冕最暜肭䏙朗望朡杞杓𣏃㭉柺枅桒梅𣑭梎栟椔㮝楂榣槪檨𣚣櫛㰘次"),
  (0x2F8F0, "𣢧歔㱎歲殟殺殻𣪍𡴋𣫺汎𣲼沿泍汧洖派海流浩浸涅𣴞洴港湮㴳滋滇𣻑淹潮𣽞𣾎濆瀹瀞瀛㶖灊災灷炭𠔥煅𤉣熜䎫"),
  (0x2F920, "爨爵牐𤘈犀犕𤜵𤠔獺王㺬玥㺸㺸瑇瑜瑱璅瓊㼛甤𤰶甾𤲒異𢆟瘐𤾡𤾸𥁄㿼䀈直𥃳𥃲𥄙𥄳眞真真睊䀹瞋䁆䂖𥐝硎碌"),
  (0x2F950, "磌䃣𥘦祖𥚚𥛅福秫䄯穀穊穏𥥼𥪧𥪧窮䈂𥮫篆築䈧𥲀糒䊠糨糣紀𥾆絣䌁緇縂繅䌴𦈨𦉇䍙𦋙罺𦌾羕翺者𦓚𦔣聠𦖨聰"),
  (0x2F980, "𣍟䏕育脃䐋脾媵𦞧𦞵𣎓𣎜舁舄辞䑫芑芋芝劳花芳芽苦𦬼若茝荣莭茣莽菧著荓菊菌菜𦰶𦵫𦳕䔫蓱蓳蔖𧏊蕤𦼬䕝䕡"),
  (0x2F9B0, "𦾱𧃒䕫虐虜虧虩蚩蚈蜎蛢蝹蜨蝫螆䵗蟡蠁䗹衠衣𧙧裗裞䘵裺㒻𧢮𧥦䚾䛇誠諭變豕𧲨貫賁贛起𧼯𠠄跋趼跰𠣞軔輸"),
  (0x2F9E0, "𨗒𨗭邔郱鄑𨜮鄛鈸鋗鋘鉼鏹鐕𨯺開䦕閷𨵷䧦雃嶲霣𩅅𩈚䩮䩶韠𩐊䪲𩒖頋頋頩𩖶飢䬳餩馧駂駾䯎𩬰鬒鱀鳽䳎䳭鵧"),
  (0x2FA10, "𪃎䳸𪄅𪈎𪊑麻䵖黹黾鼅鼏鼖鼻𪘀")]

/-- Images of none or several characters: the first code point of a run, and the images from
there on.  Blanks separate the images, and a line stands for a blank in one. -/
def severalImages : List (Nat × String) := [
  (0xA8, "_\u0308"), (0xAD, ""), (0xAF, "_\u0304"), (0xB4, "_\u0301"), (0xB8, "_\u0327"),
  (0xBC, "1⁄4 1⁄2 3⁄4"), (0xC0, "a\u0300 a\u0301 a\u0302 a\u0303 a\u0308 a\u030a"),
  (0xC7, "c\u0327 e\u0300 e\u0301 e\u0302 e\u0308 i\u0300 i\u0301 i\u0302 i\u0308"),
  (0xD1, "n\u0303 o\u0300 o\u0301 o\u0302 o\u0303 o\u0308"),
  (0xD9, "u\u0300 u\u0301 u\u0302 u\u0308 y\u0301"),
  (0xDF, "ss a\u0300 a\u0301 a\u0302 a\u0303 a\u0308 a\u030a"),
  (0xE7, "c\u0327 e\u0300 e\u0301 e\u0302 e\u0308 i\u0300 i\u0301 i\u0302 i\u0308"),
  (0xF1, "n\u0303 o\u0300 o\u0301 o\u0302 o\u0303 o\u0308"),
  (0xF9, "u\u0300 u\u0301 u\u0302 u\u0308 y\u0301"),
  (0xFF, "y\u0308 a\u0304 a\u0304 a\u0306 a\u0306 a\u0328 a\u0328 c\u0301 c\u0301 c\u0302 c\u0302 c\u0307 c\u0307 c\u030c c\u030c d\u030c d\u030c"),
  (0x112, "e\u0304 e\u0304 e\u0306 e\u0306 e\u0307 e\u0307 e\u0328 e\u0328 e\u030c e\u030c g\u0302 g\u0302 g\u0306 g\u0306 g\u0307 g\u0307 g\u0327 g\u0327 h\u0302 h\u0302"),
  (0x128, "i\u0303 i\u0303 i\u0304 i\u0304 i\u0306 i\u0306 i\u0328 i\u0328 i\u0307"),
  (0x132, "ij ij j\u0302 j\u0302 k\u0327 k\u0327"),
  (0x139, "l\u0301 l\u0301 l\u0327 l\u0327 l\u030c l\u030c l· l·"),
  (0x143, "n\u0301 n\u0301 n\u0327 n\u0327 n\u030c n\u030c ʼn"),
  (0x14C, "o\u0304 o\u0304 o\u0306 o\u0306 o\u030b o\u030b"),
  (0x154, "r\u0301 r\u0301 r\u0327 r\u0327 r\u030c r\u030c s\u0301 s\u0301 s\u0302 s\u0302 s\u0327 s\u0327 s\u030c s\u030c t\u0327 t\u0327 t\u030c t\u030c"),
  (0x168, "u\u0303 u\u0303 u\u0304 u\u0304 u\u0306 u\u0306 u\u030a u\u030a u\u030b u\u030b u\u0328 u\u0328 w\u0302 w\u0302 y\u0302 y\u0302 y\u0308 z\u0301 z\u0301 z\u0307 z\u0307 z\u030c z\u030c"),
  (0x1A0, "o\u031b o\u031b"), (0x1AF, "u\u031b u\u031b"),
  (0x1C4, "dz\u030c dz\u030c dz\u030c lj lj lj nj nj nj a\u030c a\u030c i\u030c i\u030c o\u030c o\u030c u\u030c u\u030c u\u0308\u0304 u\u0308\u0304 u\u0308\u0301 u\u0308\u0301 u\u0308\u030c u\u0308\u030c u\u0308\u0300 u\u0308\u0300"),
  (0x1DE, "a\u0308\u0304 a\u0308\u0304 a\u0307\u0304 a\u0307\u0304 æ\u0304 æ\u0304"),
  (0x1E6, "g\u030c g\u030c k\u030c k\u030c o\u0328 o\u0328 o\u0328\u0304 o\u0328\u0304 ʒ\u030c ʒ\u030c j\u030c dz dz dz g\u0301 g\u0301"),
  (0x1F8, "n\u0300 n\u0300 a\u030a\u0301 a\u030a\u0301 æ\u0301 æ\u0301 ø\u0301 ø\u0301 a\u030f a\u030f a\u0311 a\u0311 e\u030f e\u030f e\u0311 e\u0311 i\u030f i\u030f i\u0311 i\u0311 o\u030f o\u030f o\u0311 o\u0311 r\u030f r\u030f r\u0311 r\u0311 u\u030f u\u030f u\u0311 u\u0311 s\u0326 s\u0326 t\u0326 t\u0326"),
  (0x21E, "h\u030c h\u030c"),
  (0x226, "a\u0307 a\u0307 e\u0327 e\u0327 o\u0308\u0304 o\u0308\u0304 o\u0303\u0304 o\u0303\u0304 o\u0307 o\u0307 o\u0307\u0304 o\u0307\u0304 y\u0304 y\u0304"),
  (0x2D8, "_\u0306 _\u0307 _\u030a _\u0328 _\u0303 _\u030b"), (0x344, "\u0308\u0301"),
  (0x34F, ""), (0x37A, "_ι"), (0x384, "_\u0301 _\u0308\u0301 α\u0301"),
  (0x388, "ε\u0301 η\u0301 ι\u0301"), (0x38C, "ο\u0301"),
  (0x38E, "υ\u0301 ω\u0301 ι\u0308\u0301"),
  (0x3AA, "ι\u0308 υ\u0308 α\u0301 ε\u0301 η\u0301 ι\u0301 υ\u0308\u0301"),
  (0x3CA, "ι\u0308 υ\u0308 ο\u0301 υ\u0301 ω\u0301"), (0x3D3, "υ\u0301 υ\u0308"),
  (0x400, "е\u0300 е\u0308"), (0x403, "г\u0301"), (0x407, "і\u0308"),
  (0x40C, "к\u0301 и\u0300 у\u0306"), (0x419, "и\u0306"), (0x439, "и\u0306"),
  (0x450, "е\u0300 е\u0308"), (0x453, "г\u0301"), (0x457, "і\u0308"),
  (0x45C, "к\u0301 и\u0300 у\u0306"), (0x476, "ѵ\u030f ѵ\u030f"), (0x4C1, "ж\u0306 ж\u0306"),
  (0x4D0, "а\u0306 а\u0306 а\u0308 а\u0308"), (0x4D6, "е\u0306 е\u0306"),
  (0x4DA, "ә\u0308 ә\u0308 ж\u0308 ж\u0308 з\u0308 з\u0308"),
  (0x4E2, "и\u0304 и\u0304 и\u0308 и\u0308 о\u0308 о\u0308"),
  (0x4EA, "ө\u0308 ө\u0308 э\u0308 э\u0308 у\u0304 у\u0304 у\u0308 у\u0308 у\u030b у\u030b ч\u0308 ч\u0308"),
  (0x4F8, "ы\u0308 ы\u0308"), (0x587, "եւ"),
  (0x622, "\u0627\u0653 \u0627\u0654 \u0648\u0654 \u0627\u0655 \u064a\u0654"),
  (0x675, "\u0627\u0674 \u0648\u0674 \u06c7\u0674 \u064a\u0674"), (0x6C0, "\u06d5\u0654"),
  (0x6C2, "\u06c1\u0654"), (0x6D3, "\u06d2\u0654"), (0x929, "न\u093c"), (0x931, "र\u093c"),
  (0x934, "ळ\u093c"), (0x958, "क\u093c ख\u093c ग\u093c ज\u093c ड\u093c ढ\u093c फ\u093c य\u093c"),
  (0x9CB, "\u09c7\u09be \u09c7\u09d7"), (0x9DC, "ড\u09bc ঢ\u09bc"), (0x9DF, "য\u09bc"),
  (0xA33, "ਲ\u0a3c"), (0xA36, "ਸ\u0a3c"), (0xA59, "ਖ\u0a3c ਗ\u0a3c ਜ\u0a3c"), (0xA5E, "ਫ\u0a3c"),
  (0xB48, "\u0b47\u0b56"), (0xB4B, "\u0b47\u0b3e \u0b47\u0b57"), (0xB5C, "ଡ\u0b3c ଢ\u0b3c"),
  (0xB94, "ஒ\u0bd7"), (0xBCA, "\u0bc6\u0bbe \u0bc7\u0bbe \u0bc6\u0bd7"), (0xC48, "\u0c46\u0c56"),
  (0xCC0, "\u0cbf\u0cd5"), (0xCC7, "\u0cc6\u0cd5 \u0cc6\u0cd6"),
  (0xCCA, "\u0cc6\u0cc2 \u0cc6\u0cc2\u0cd5"), (0xD4A, "\u0d46\u0d3e \u0d47\u0d3e \u0d46\u0d57"),
  (0xDDA, "\u0dd9\u0dca"), (0xDDC, "\u0dd9\u0dcf \u0dd9\u0dcf\u0dca \u0dd9\u0ddf"),
  (0xE33, "\u0e4dา"), (0xEB3, "\u0ecdາ"), (0xEDC, "ຫນ ຫມ"), (0xF43, "ག\u0fb7"),
  (0xF4D, "ཌ\u0fb7"), (0xF52, "ད\u0fb7"), (0xF57, "བ\u0fb7"), (0xF5C, "ཛ\u0fb7"),
  (0xF69, "ཀ\u0fb5"), (0xF73, "\u0f71\u0f72"),
  (0xF75, "\u0f71\u0f74 \u0fb2\u0f80 \u0fb2\u0f71\u0f80 \u0fb3\u0f80 \u0fb3\u0f71\u0f80"),
  (0xF81, "\u0f71\u0f80"), (0xF93, "\u0f92\u0fb7"), (0xF9D, "\u0f9c\u0fb7"),
  (0xFA2, "\u0fa1\u0fb7"), (0xFA7, "\u0fa6\u0fb7"), (0xFAC, "\u0fab\u0fb7"),
  (0xFB9, "\u0f90\u0fb5"), (0x1026, "ဥ\u102e"), (0x1806, ""), (0x180B, "  "),
  (0x1E00, "a\u0325 a\u0325 b\u0307 b\u0307 b\u0323 b\u0323 b\u0331 b\u0331 c\u0327\u0301 c\u0327\u0301 d\u0307 d\u0307 d\u0323 d\u0323 d\u0331 d\u0331 d\u0327 d\u0327 d\u032d d\u032d e\u0304\u0300 e\u0304\u0300 e\u0304\u0301 e\u0304\u0301 e\u032d e\u032d e\u0330 e\u0330 e\u0327\u0306 e\u0327\u0306 f\u0307 f\u0307 g\u0304 g\u0304 h\u0307 h\u0307 h\u0323 h\u0323 h\u0308 h\u0308 h\u0327 h\u0327 h\u032e h\u032e i\u0330 i\u0330 i\u0308\u0301 i\u0308\u0301"),
  (0x1E30, "k\u0301 k\u0301 k\u0323 k\u0323 k\u0331 k\u0331 l\u0323 l\u0323 l\u0323\u0304 l\u0323\u0304 l\u0331 l\u0331 l\u032d l\u032d m\u0301 m\u0301 m\u0307 m\u0307 m\u0323 m\u0323 n\u0307 n\u0307 n\u0323 n\u0323 n\u0331 n\u0331 n\u032d n\u032d o\u0303\u0301 o\u0303\u0301 o\u0303\u0308 o\u0303\u0308 o\u0304\u0300 o\u0304\u0300 o\u0304\u0301 o\u0304\u0301 p\u0301 p\u0301 p\u0307 p\u0307 r\u0307 r\u0307 r\u0323 r\u0323 r\u0323\u0304 r\u0323\u0304 r\u0331 r\u0331"),
  (0x1E60, "s\u0307 s\u0307 s\u0323 s\u0323 s\u0301\u0307 s\u0301\u0307 s\u030c\u0307 s\u030c\u0307 s\u0323\u0307 s\u0323\u0307 t\u0307 t\u0307 t\u0323 t\u0323 t\u0331 t\u0331 t\u032d t\u032d u\u0324 u\u0324 u\u0330 u\u0330 u\u032d u\u032d u\u0303\u0301 u\u0303\u0301 u\u0304\u0308 u\u0304\u0308 v\u0303 v\u0303 v\u0323 v\u0323 w\u0300 w\u0300 w\u0301 w\u0301 w\u0308 w\u0308 w\u0307 w\u0307 w\u0323 w\u0323 x\u0307 x\u0307 x\u0308 x\u0308 y\u0307 y\u0307"),
  (0x1E90, "z\u0302 z\u0302 z\u0323 z\u0323 z\u0331 z\u0331 h\u0331 t\u0308 w\u030a y\u030a aʾ s\u0307"),
  (0x1E9E, "ss"),
  (0x1EA0, "a\u0323 a\u0323 a\u0309 a\u0309 a\u0302\u0301 a\u0302\u0301 a\u0302\u0300 a\u0302\u0300 a\u0302\u0309 a\u0302\u0309 a\u0302\u0303 a\u0302\u0303 a\u0323\u0302 a\u0323\u0302 a\u0306\u0301 a\u0306\u0301 a\u0306\u0300 a\u0306\u0300 a\u0306\u0309 a\u0306\u0309 a\u0306\u0303 a\u0306\u0303 a\u0323\u0306 a\u0323\u0306 e\u0323 e\u0323 e\u0309 e\u0309 e\u0303 e\u0303 e\u0302\u0301 e\u0302\u0301 e\u0302\u0300 e\u0302\u0300 e\u0302\u0309 e\u0302\u0309 e\u0302\u0303 e\u0302\u0303 e\u0323\u0302 e\u0323\u0302 i\u0309 i\u0309 i\u0323 i\u0323 o\u0323 o\u0323 o\u0309 o\u0309"),
  (0x1ED0, "o\u0302\u0301 o\u0302\u0301 o\u0302\u0300 o\u0302\u0300 o\u0302\u0309 o\u0302\u0309 o\u0302\u0303 o\u0302\u0303 o\u0323\u0302 o\u0323\u0302 o\u031b\u0301 o\u031b\u0301 o\u031b\u0300 o\u031b\u0300 o\u031b\u0309 o\u031b\u0309 o\u031b\u0303 o\u031b\u0303 o\u031b\u0323 o\u031b\u0323 u\u0323 u\u0323 u\u0309 u\u0309 u\u031b\u0301 u\u031b\u0301 u\u031b\u0300 u\u031b\u0300 u\u031b\u0309 u\u031b\u0309 u\u031b\u0303 u\u031b\u0303 u\u031b\u0323 u\u031b\u0323 y\u0300 y\u0300 y\u0323 y\u0323 y\u0309 y\u0309 y\u0303 y\u0303"),
  (0x1F00, "α\u0313 α\u0314 α\u0313\u0300 α\u0314\u0300 α\u0313\u0301 α\u0314\u0301 α\u0313\u0342 α\u0314\u0342 α\u0313 α\u0314 α\u0313\u0300 α\u0314\u0300 α\u0313\u0301 α\u0314\u0301 α\u0313\u0342 α\u0314\u0342 ε\u0313 ε\u0314 ε\u0313\u0300 ε\u0314\u0300 ε\u0313\u0301 ε\u0314\u0301"),
  (0x1F18, "ε\u0313 ε\u0314 ε\u0313\u0300 ε\u0314\u0300 ε\u0313\u0301 ε\u0314\u0301"),
  (0x1F20, "η\u0313 η\u0314 η\u0313\u0300 η\u0314\u0300 η\u0313\u0301 η\u0314\u0301 η\u0313\u0342 η\u0314\u0342 η\u0313 η\u0314 η\u0313\u0300 η\u0314\u0300 η\u0313\u0301 η\u0314\u0301 η\u0313\u0342 η\u0314\u0342 ι\u0313 ι\u0314 ι\u0313\u0300 ι\u0314\u0300 ι\u0313\u0301 ι\u0314\u0301 ι\u0313\u0342 ι\u0314\u0342 ι\u0313 ι\u0314 ι\u0313\u0300 ι\u0314\u0300 ι\u0313\u0301 ι\u0314\u0301 ι\u0313\u0342 ι\u0314\u0342 ο\u0313 ο\u0314 ο\u0313\u0300 ο\u0314\u0300 ο\u0313\u0301 ο\u0314\u0301"),
  (0x1F48, "ο\u0313 ο\u0314 ο\u0313\u0300 ο\u0314\u0300 ο\u0313\u0301 ο\u0314\u0301"),
  (0x1F50, "υ\u0313 υ\u0314 υ\u0313\u0300 υ\u0314\u0300 υ\u0313\u0301 υ\u0314\u0301 υ\u0313\u0342 υ\u0314\u0342"),
  (0x1F59, "υ\u0314"), (0x1F5B, "υ\u0314\u0300"), (0x1F5D, "υ\u0314\u0301"),
  (0x1F5F, "υ\u0314\u0342 ω\u0313 ω\u0314 ω\u0313\u0300 ω\u0314\u0300 ω\u0313\u0301 ω\u0314\u0301 ω\u0313\u0342 ω\u0314\u0342 ω\u0313 ω\u0314 ω\u0313\u0300 ω\u0314\u0300 ω\u0313\u0301 ω\u0314\u0301 ω\u0313\u0342 ω\u0314\u0342 α\u0300 α\u0301 ε\u0300 ε\u0301 η\u0300 η\u0301 ι\u0300 ι\u0301 ο\u0300 ο\u0301 υ\u0300 υ\u0301 ω\u0300 ω\u0301"),
  (0x1F80, "α\u0313ι α\u0314ι α\u0313\u0300ι α\u0314\u0300ι α\u0313\u0301ι α\u0314\u0301ι α\u0313\u0342ι α\u0314\u0342ι α\u0313ι α\u0314ι α\u0313\u0300ι α\u0314\u0300ι α\u0313\u0301ι α\u0314\u0301ι α\u0313\u0342ι α\u0314\u0342ι η\u0313ι η\u0314ι η\u0313\u0300ι η\u0314\u0300ι η\u0313\u0301ι η\u0314\u0301ι η\u0313\u0342ι η\u0314\u0342ι η\u0313ι η\u0314ι η\u0313\u0300ι η\u0314\u0300ι η\u0313\u0301ι η\u0314\u0301ι η\u0313\u0342ι η\u0314\u0342ι ω\u0313ι ω\u0314ι ω\u0313\u0300ι ω\u0314\u0300ι ω\u0313\u0301ι ω\u0314\u0301ι ω\u0313\u0342ι ω\u0314\u0342ι ω\u0313ι ω\u0314ι ω\u0313\u0300ι ω\u0314\u0300ι ω\u0313\u0301ι ω\u0314\u0301ι ω\u0313\u0342ι ω\u0314\u0342ι"),
  (0x1FB0, "α\u0306 α\u0304 α\u0300ι αι α\u0301ι"),
  (0x1FB6, "α\u0342 α\u0342ι α\u0306 α\u0304 α\u0300 α\u0301 αι _\u0313"),
  (0x1FBF, "_\u0313 _\u0342 _\u0308\u0342 η\u0300ι ηι η\u0301ι"),
  (0x1FC6, "η\u0342 η\u0342ι ε\u0300 ε\u0301 η\u0300 η\u0301 ηι _\u0313\u0300 _\u0313\u0301 _\u0313\u0342 ι\u0306 ι\u0304 ι\u0308\u0300 ι\u0308\u0301"),
  (0x1FD6, "ι\u0342 ι\u0308\u0342 ι\u0306 ι\u0304 ι\u0300 ι\u0301"),
  (0x1FDD, "_\u0314\u0300 _\u0314\u0301 _\u0314\u0342 υ\u0306 υ\u0304 υ\u0308\u0300 υ\u0308\u0301 ρ\u0313 ρ\u0314 υ\u0342 υ\u0308\u0342 υ\u0306 υ\u0304 υ\u0300 υ\u0301 ρ\u0314 _\u0308\u0300 _\u0308\u0301"),
  (0x1FF2, "ω\u0300ι ωι ω\u0301ι"),
  (0x1FF6, "ω\u0342 ω\u0342ι ο\u0300 ο\u0301 ω\u0300 ω\u0301 ωι _\u0301 _\u0314"), (0x200B, "  "),
  (0x2017, "_\u0333"), (0x2025, ".. ..."), (0x2033, "′′ ′′′"), (0x2036, "‵‵ ‵‵‵"), (0x203C, "!!"),
  (0x203E, "_\u0305"), (0x2047, "?? ?! !?"), (0x2057, "′′′′"), (0x2060, ""), (0x20A8, "rs"),
  (0x2100, "a\x2fc a\x2fs"), (0x2103, "°c"), (0x2105, "c\x2fo c\x2fu"), (0x2109, "°f"),
  (0x2116, "no"), (0x2120, "sm tel tm"), (0x212B, "a\u030a"),
  (0x2153, "1⁄3 2⁄3 1⁄5 2⁄5 3⁄5 4⁄5 1⁄6 5⁄6 1⁄8 3⁄8 5⁄8 7⁄8 1⁄"), (0x2161, "ii iii iv"),
  (0x2165, "vi vii viii ix"), (0x216A, "xi xii"), (0x2171, "ii iii iv"),
  (0x2175, "vi vii viii ix"), (0x217A, "xi xii"), (0x219A, "←\u0338 →\u0338"),
  (0x21AE, "↔\u0338"), (0x21CD, "⇐\u0338 ⇔\u0338 ⇒\u0338"), (0x2204, "∃\u0338"),
  (0x2209, "∈\u0338"), (0x220C, "∋\u0338"), (0x2224, "∣\u0338"), (0x2226, "∥\u0338"),
  (0x222C, "∫∫ ∫∫∫"), (0x222F, "∮∮ ∮∮∮"), (0x2241, "∼\u0338"), (0x2244, "≃\u0338"),
  (0x2247, "≅\u0338"), (0x2249, "≈\u0338"), (0x2260, "=\u0338"), (0x2262, "≡\u0338"),
  (0x226D, "≍\u0338 <\u0338 >\u0338 ≤\u0338 ≥\u0338"), (0x2274, "≲\u0338 ≳\u0338"),
  (0x2278, "≶\u0338 ≷\u0338"), (0x2280, "≺\u0338 ≻\u0338"), (0x2284, "⊂\u0338 ⊃\u0338"),
  (0x2288, "⊆\u0338 ⊇\u0338"), (0x22AC, "⊢\u0338 ⊨\u0338 ⊩\u0338 ⊫\u0338"),
  (0x22E0, "≼\u0338 ≽\u0338 ⊑\u0338 ⊒\u0338"), (0x22EA, "⊲\u0338 ⊳\u0338 ⊴\u0338 ⊵\u0338"),
  (0x2469, "10 11 12 13 14 15 16 17 18 19 20 (1) (2) (3) (4) (5) (6) (7) (8) (9) (10) (11) (12) (13) (14) (15) (16) (17) (18) (19) (20) 1. 2. 3. 4. 5. 6. 7. 8. 9. 10. 11. 12. 13. 14. 15. 16. 17."),
  (0x2499, "18. 19. 20. (a) (b) (c) (d) (e) (f) (g) (h) (i) (j) (k) (l) (m) (n) (o) (p) (q) (r) (s) (t) (u) (v) (w) (x) (y) (z)"),
  (0x2A0C, "∫∫∫∫"), (0x2A74, "::= == ==="), (0x2ADC, "⫝\u0338"), (0x304C, "か\u3099"),
  (0x304E, "き\u3099"), (0x3050, "く\u3099"), (0x3052, "け\u3099"), (0x3054, "こ\u3099"),
  (0x3056, "さ\u3099"), (0x3058, "し\u3099"), (0x305A, "す\u3099"), (0x305C, "せ\u3099"),
  (0x305E, "そ\u3099"), (0x3060, "た\u3099"), (0x3062, "ち\u3099"), (0x3065, "つ\u3099"),
  (0x3067, "て\u3099"), (0x3069, "と\u3099"), (0x3070, "は\u3099 は\u309a"),
  (0x3073, "ひ\u3099 ひ\u309a"), (0x3076, "ふ\u3099 ふ\u309a"), (0x3079, "へ\u3099 へ\u309a"),
  (0x307C, "ほ\u3099 ほ\u309a"), (0x3094, "う\u3099"), (0x309B, "_\u3099 _\u309a"),
  (0x309E, "ゝ\u3099 より"), (0x30AC, "カ\u3099"), (0x30AE, "キ\u3099"), (0x30B0, "ク\u3099"),
  (0x30B2, "ケ\u3099"), (0x30B4, "コ\u3099"), (0x30B6, "サ\u3099"), (0x30B8, "シ\u3099"),
  (0x30BA, "ス\u3099"), (0x30BC, "セ\u3099"), (0x30BE, "ソ\u3099"), (0x30C0, "タ\u3099"),
  (0x30C2, "チ\u3099"), (0x30C5, "ツ\u3099"), (0x30C7, "テ\u3099"), (0x30C9, "ト\u3099"),
  (0x30D0, "ハ\u3099 ハ\u309a"), (0x30D3, "ヒ\u3099 ヒ\u309a"), (0x30D6, "フ\u3099 フ\u309a"),
  (0x30D9, "ヘ\u3099 ヘ\u309a"), (0x30DC, "ホ\u3099 ホ\u309a"), (0x30F4, "ウ\u3099"),
  (0x30F7, "ワ\u3099 ヰ\u3099 ヱ\u3099 ヲ\u3099"), (0x30FE, "ヽ\u3099 コト"),
  (0x3200, "(\u1100) (\u1102) (\u1103) (\u1105) (\u1106) (\u1107) (\u1109) (\u110b) (\u110c) (\u110e) (\u110f) (\u1110) (\u1111) (\u1112) (\u1100\u1161) (\u1102\u1161) (\u1103\u1161) (\u1105\u1161) (\u1106\u1161) (\u1107\u1161) (\u1109\u1161) (\u110b\u1161) (\u110c\u1161) (\u110e\u1161) (\u110f\u1161) (\u1110\u1161) (\u1111\u1161) (\u1112\u1161) (\u110c\u116e)"),
  (0x3220, "(一) (二) (三) (四) (五) (六) (七) (八) (九) (十) (月) (火) (水) (木) (金) (土) (日) (株) (有) (社) (名) (特) (財) (祝) (労) (代) (呼) (学) (監) (企) (資) (協) (祭) (休) (自) (至)"),
  (0x3251, "21 22 23 24 25 26 27 28 29 30 31 32 33 34 35"),
  (0x326E, "\u1100\u1161 \u1102\u1161 \u1103\u1161 \u1105\u1161 \u1106\u1161 \u1107\u1161 \u1109\u1161 \u110b\u1161 \u110c\u1161 \u110e\u1161 \u110f\u1161 \u1110\u1161 \u1111\u1161 \u1112\u1161"),
  (0x32B1, "36 37 38 39 40 41 42 43 44 45 46 47 48 49 50 1月 2月 3月 4月 5月 6月 7月 8月 9月 10月 11月 12月"),
  (0x3300, "アハ\u309aート アルファ アンヘ\u309aア アール イニンク\u3099 インチ ウォン エスクート\u3099 エーカー オンス オーム カイリ カラット カロリー カ\u3099ロン カ\u3099ンマ キ\u3099カ\u3099 キ\u3099ニー キュリー キ\u3099ルタ\u3099ー キロ キロク\u3099ラム キロメートル キロワット ク\u3099ラム ク\u3099ラムトン クルセ\u3099イロ クローネ ケース コルナ コーホ\u309a サイクル サンチーム シリンク\u3099 センチ セント タ\u3099ース テ\u3099シ ト\u3099ル トン ナノ ノット ハイツ ハ\u309aーセント ハ\u309aーツ ハ\u3099ーレル ヒ\u309aアストル ヒ\u309aクル"),
  (0x3330, "ヒ\u309aコ ヒ\u3099ル ファラット\u3099 フィート フ\u3099ッシェル フラン ヘクタール ヘ\u309aソ ヘ\u309aニヒ ヘルツ ヘ\u309aンス ヘ\u309aーシ\u3099 ヘ\u3099ータ ホ\u309aイント ホ\u3099ルト ホン ホ\u309aント\u3099 ホール ホーン マイクロ マイル マッハ マルク マンション ミクロン ミリ ミリハ\u3099ール メカ\u3099 メカ\u3099トン メートル ヤート\u3099 ヤール ユアン リットル リラ ルヒ\u309aー ルーフ\u3099ル レム レントケ\u3099ン ワット 0点 1点 2点 3点 4点 5点 6点 7点"),
  (0x3360, "8点 9点 10点 11点 12点 13点 14点 15点 16点 17点 18点 19点 20点 21点 22点 23点 24点 hpa da au bar ov pc"),
  (0x337B, "平成 昭和 大正 明治 株式会社 pa na μa ma ka kb mb gb cal kcal pf nf μf μg mg kg hz khz mhz ghz thz μl ml dl kl fm nm μm mm cm km mm2 cm2 m2 km2 mm3 cm3 m3 km3 m∕s m∕s2 pa kpa"),
  (0x33AB, "mpa gpa rad rad∕s rad∕s2 ps ns μs ms pv nv μv mv kv mv pw nw μw mw kw mw kω mω a.m. bq cc cd c∕kg co. db gy ha hp in kk km kt lm ln log lx mb mil mol ph p.m. ppm pr"),
  (0x33DB, "sr sv wb"),
  (0x33E0, "1日 2日 3日 4日 5日 6日 7日 8日 9日 10日 11日 12日 13日 14日 15日 16日 17日 18日 19日 20日 21日 22日 23日 24日 25日 26日 27日 28日 29日 30日 31日"),
  (0xFB00, "ff fi fl ffi ffl st st"), (0xFB13, "մն մե մի վն մխ"), (0xFB1D, "\u05d9\u05b4"),
  (0xFB1F, "\u05f2\u05b7"),
  (0xFB2A, "\u05e9\u05c1 \u05e9\u05c2 \u05e9\u05bc\u05c1 \u05e9\u05bc\u05c2 \u05d0\u05b7 \u05d0\u05b8 \u05d0\u05bc \u05d1\u05bc \u05d2\u05bc \u05d3\u05bc \u05d4\u05bc \u05d5\u05bc \u05d6\u05bc"),
  (0xFB38, "\u05d8\u05bc \u05d9\u05bc \u05da\u05bc \u05db\u05bc \u05dc\u05bc"),
  (0xFB3E, "\u05de\u05bc"), (0xFB40, "\u05e0\u05bc \u05e1\u05bc"),
  (0xFB43, "\u05e3\u05bc \u05e4\u05bc"),
  (0xFB46, "\u05e6\u05bc \u05e7\u05bc \u05e8\u05bc \u05e9\u05bc \u05ea\u05bc \u05d5\u05b9 \u05d1\u05bf \u05db\u05bf \u05e4\u05bf \u05d0\u05dc"),
  (0xFBA4, "\u06d5\u0654 \u06d5\u0654"), (0xFBB0, "\u06d2\u0654 \u06d2\u0654"),
  (0xFBDD, "\u06c7\u0674"),
  (0xFBEA, "\u064a\u0654\u0627 \u064a\u0654\u0627 \u064a\u0654\u06d5 \u064a\u0654\u06d5 \u064a\u0654\u0648 \u064a\u0654\u0648 \u064a\u0654\u06c7 \u064a\u0654\u06c7 \u064a\u0654\u06c6 \u064a\u0654\u06c6 \u064a\u0654\u06c8 \u064a\u0654\u06c8 \u064a\u0654\u06d0 \u064a\u0654\u06d0 \u064a\u0654\u06d0 \u064a\u0654\u0649 \u064a\u0654\u0649 \u064a\u0654\u0649"),
  (0xFC00, "\u064a\u0654\u062c \u064a\u0654\u062d \u064a\u0654\u0645 \u064a\u0654\u0649 \u064a\u0654\u064a \u0628\u062c \u0628\u062d \u0628\u062e \u0628\u0645 \u0628\u0649 \u0628\u064a \u062a\u062c \u062a\u062d \u062a\u062e \u062a\u0645 \u062a\u0649 \u062a\u064a \u062b\u062c \u062b\u0645 \u062b\u0649 \u062b\u064a \u062c\u062d \u062c\u0645 \u062d\u062c \u062d\u0645 \u062e\u062c \u062e\u062d \u062e\u0645 \u0633\u062c \u0633\u062d \u0633\u062e \u0633\u0645 \u0635\u062d \u0635\u0645 \u0636\u062c \u0636\u062d \u0636\u062e \u0636\u0645 \u0637\u062d \u0637\u0645 \u0638\u0645 \u0639\u062c \u0639\u0645 \u063a\u062c \u063a\u0645 \u0641\u062c \u0641\u062d \u0641\u062e"),
  (0xFC30, "\u0641\u0645 \u0641\u0649 \u0641\u064a \u0642\u062d \u0642\u0645 \u0642\u0649 \u0642\u064a \u0643\u0627 \u0643\u062c \u0643\u062d \u0643\u062e \u0643\u0644 \u0643\u0645 \u0643\u0649 \u0643\u064a \u0644\u062c \u0644\u062d \u0644\u062e \u0644\u0645 \u0644\u0649 \u0644\u064a \u0645\u062c \u0645\u062d \u0645\u062e \u0645\u0645 \u0645\u0649 \u0645\u064a \u0646\u062c \u0646\u062d \u0646\u062e \u0646\u0645 \u0646\u0649 \u0646\u064a \u0647\u062c \u0647\u0645 \u0647\u0649 \u0647\u064a \u064a\u062c \u064a\u062d \u064a\u062e \u064a\u0645 \u064a\u0649 \u064a\u064a \u0630\u0670 \u0631\u0670 \u0649\u0670 _\u064c\u0651 _\u064d\u0651"),
  (0xFC60, "_\u064e\u0651 _\u064f\u0651 _\u0650\u0651 _\u0651\u0670 \u064a\u0654\u0631 \u064a\u0654\u0632 \u064a\u0654\u0645 \u064a\u0654\u0646 \u064a\u0654\u0649 \u064a\u0654\u064a \u0628\u0631 \u0628\u0632 \u0628\u0645 \u0628\u0646 \u0628\u0649 \u0628\u064a \u062a\u0631 \u062a\u0632 \u062a\u0645 \u062a\u0646 \u062a\u0649 \u062a\u064a \u062b\u0631 \u062b\u0632 \u062b\u0645 \u062b\u0646 \u062b\u0649 \u062b\u064a \u0641\u0649 \u0641\u064a \u0642\u0649 \u0642\u064a \u0643\u0627 \u0643\u0644 \u0643\u0645 \u0643\u0649 \u0643\u064a \u0644\u0645 \u0644\u0649 \u0644\u064a \u0645\u0627 \u0645\u0645 \u0646\u0631 \u0646\u0632 \u0646\u0645 \u0646\u0646 \u0646\u0649 \u0646\u064a"),
  (0xFC90, "\u0649\u0670 \u064a\u0631 \u064a\u0632 \u064a\u0645 \u064a\u0646 \u064a\u0649 \u064a\u064a \u064a\u0654\u062c \u064a\u0654\u062d \u064a\u0654\u062e \u064a\u0654\u0645 \u064a\u0654\u0647 \u0628\u062c \u0628\u062d \u0628\u062e \u0628\u0645 \u0628\u0647 \u062a\u062c \u062a\u062d \u062a\u062e \u062a\u0645 \u062a\u0647 \u062b\u0645 \u062c\u062d \u062c\u0645 \u062d\u062c \u062d\u0645 \u062e\u062c \u062e\u0645 \u0633\u062c \u0633\u062d \u0633\u062e \u0633\u0645 \u0635\u062d \u0635\u062e \u0635\u0645 \u0636\u062c \u0636\u062d \u0636\u062e \u0636\u0645 \u0637\u062d \u0638\u0645 \u0639\u062c \u0639\u0645 \u063a\u062c \u063a\u0645 \u0641\u062c \u0641\u062d"),
  (0xFCC0, "\u0641\u062e \u0641\u0645 \u0642\u062d \u0642\u0645 \u0643\u062c \u0643\u062d \u0643\u062e \u0643\u0644 \u0643\u0645 \u0644\u062c \u0644\u062d \u0644\u062e \u0644\u0645 \u0644\u0647 \u0645\u062c \u0645\u062d \u0645\u062e \u0645\u0645 \u0646\u062c \u0646\u062d \u0646\u062e \u0646\u0645 \u0646\u0647 \u0647\u062c \u0647\u0645 \u0647\u0670 \u064a\u062c \u064a\u062d \u064a\u062e \u064a\u0645 \u064a\u0647 \u064a\u0654\u0645 \u064a\u0654\u0647 \u0628\u0645 \u0628\u0647 \u062a\u0645 \u062a\u0647 \u062b\u0645 \u062b\u0647 \u0633\u0645 \u0633\u0647 \u0634\u0645 \u0634\u0647 \u0643\u0644 \u0643\u0645 \u0644\u0645 \u0646\u0645 \u0646\u0647"),
  (0xFCF0, "\u064a\u0645 \u064a\u0647 \u0640\u064e\u0651 \u0640\u064f\u0651 \u0640\u0650\u0651 \u0637\u0649 \u0637\u064a \u0639\u0649 \u0639\u064a \u063a\u0649 \u063a\u064a \u0633\u0649 \u0633\u064a \u0634\u0649 \u0634\u064a \u062d\u0649 \u062d\u064a \u062c\u0649 \u062c\u064a \u062e\u0649 \u062e\u064a \u0635\u0649 \u0635\u064a \u0636\u0649 \u0636\u064a \u0634\u062c \u0634\u062d \u0634\u062e \u0634\u0645 \u0634\u0631 \u0633\u0631 \u0635\u0631 \u0636\u0631 \u0637\u0649 \u0637\u064a \u0639\u0649 \u0639\u064a \u063a\u0649 \u063a\u064a \u0633\u0649 \u0633\u064a \u0634\u0649 \u0634\u064a \u062d\u0649 \u062d\u064a \u062c\u0649 \u062c\u064a \u062e\u0649"),
  (0xFD20, "\u062e\u064a \u0635\u0649 \u0635\u064a \u0636\u0649 \u0636\u064a \u0634\u062c \u0634\u062d \u0634\u062e \u0634\u0645 \u0634\u0631 \u0633\u0631 \u0635\u0631 \u0636\u0631 \u0634\u062c \u0634\u062d \u0634\u062e \u0634\u0645 \u0633\u0647 \u0634\u0647 \u0637\u0645 \u0633\u062c \u0633\u062d \u0633\u062e \u0634\u062c \u0634\u062d \u0634\u062e \u0637\u0645 \u0638\u0645 \u0627\u064b \u0627\u064b"),
  (0xFD50, "\u062a\u062c\u0645 \u062a\u062d\u062c \u062a\u062d\u062c \u062a\u062d\u0645 \u062a\u062e\u0645 \u062a\u0645\u062c \u062a\u0645\u062d \u062a\u0645\u062e \u062c\u0645\u062d \u062c\u0645\u062d \u062d\u0645\u064a \u062d\u0645\u0649 \u0633\u062d\u062c \u0633\u062c\u062d \u0633\u062c\u0649 \u0633\u0645\u062d \u0633\u0645\u062d \u0633\u0645\u062c \u0633\u0645\u0645 \u0633\u0645\u0645 \u0635\u062d\u062d \u0635\u062d\u062d \u0635\u0645\u0645 \u0634\u062d\u0645 \u0634\u062d\u0645 \u0634\u062c\u064a \u0634\u0645\u062e \u0634\u0645\u062e \u0634\u0645\u0645 \u0634\u0645\u0645 \u0636\u062d\u0649 \u0636\u062e\u0645 \u0636\u062e\u0645 \u0637\u0645\u062d \u0637\u0645\u062d \u0637\u0645\u0645 \u0637\u0645\u064a \u0639\u062c\u0645 \u0639\u0645\u0645 \u0639\u0645\u0645 \u0639\u0645\u0649 \u063a\u0645\u0645 \u063a\u0645\u064a \u063a\u0645\u0649 \u0641\u062e\u0645 \u0641\u062e\u0645 \u0642\u0645\u062d \u0642\u0645\u0645"),
  (0xFD80, "\u0644\u062d\u0645 \u0644\u062d\u064a \u0644\u062d\u0649 \u0644\u062c\u062c \u0644\u062c\u062c \u0644\u062e\u0645 \u0644\u062e\u0645 \u0644\u0645\u062d \u0644\u0645\u062d \u0645\u062d\u062c \u0645\u062d\u0645 \u0645\u062d\u064a \u0645\u062c\u062d \u0645\u062c\u0645 \u0645\u062e\u062c \u0645\u062e\u0645"),
  (0xFD92, "\u0645\u062c\u062e \u0647\u0645\u062c \u0647\u0645\u0645 \u0646\u062d\u0645 \u0646\u062d\u0649 \u0646\u062c\u0645 \u0646\u062c\u0645 \u0646\u062c\u0649 \u0646\u0645\u064a \u0646\u0645\u0649 \u064a\u0645\u0645 \u064a\u0645\u0645 \u0628\u062e\u064a \u062a\u062c\u064a \u062a\u062c\u0649 \u062a\u062e\u064a \u062a\u062e\u0649 \u062a\u0645\u064a \u062a\u0645\u0649 \u062c\u0645\u064a \u062c\u062d\u0649 \u062c\u0645\u0649 \u0633\u062e\u0649 \u0635\u062d\u064a \u0634\u062d\u064a \u0636\u062d\u064a \u0644\u062c\u064a \u0644\u0645\u064a \u064a\u062d\u064a \u064a\u062c\u064a \u064a\u0645\u064a \u0645\u0645\u064a \u0642\u0645\u064a \u0646\u062d\u064a \u0642\u0645\u062d \u0644\u062d\u0645 \u0639\u0645\u064a \u0643\u0645\u064a \u0646\u062c\u062d \u0645\u062e\u064a \u0644\u062c\u0645 \u0643\u0645\u0645 \u0644\u062c\u0645 \u0646\u062c\u062d \u062c\u062d\u064a \u062d\u062c\u064a \u0645\u062c\u064a \u0641\u0645\u064a"),
  (0xFDC2, "\u0628\u062d\u064a \u0643\u0645\u0645 \u0639\u062c\u0645 \u0635\u0645\u0645 \u0633\u062e\u064a \u0646\u062c\u064a"),
  (0xFDF0, "\u0635\u0644\u06d2 \u0642\u0644\u06d2 \u0627\u0644\u0644\u0647 \u0627\u0643\u0628\u0631 \u0645\u062d\u0645\u062f \u0635\u0644\u0639\u0645 \u0631\u0633\u0648\u0644 \u0639\u0644\u064a\u0647 \u0648\u0633\u0644\u0645 \u0635\u0644\u0649 \u0635\u0644\u0649_\u0627\u0644\u0644\u0647_\u0639\u0644\u064a\u0647_\u0648\u0633\u0644\u0645 \u062c\u0644_\u062c\u0644\u0627\u0644\u0647 \u0631\u06cc\u0627\u0644"),
  (0xFE00, "               "), (0xFE30, ".."), (0xFE49, "_\u0305 _\u0305 _\u0305 _\u0305"),
  (0xFE70, "_\u064b \u0640\u064b _\u064c"), (0xFE74, "_\u064d"),
  (0xFE76, "_\u064e \u0640\u064e _\u064f \u0640\u064f _\u0650 \u0640\u0650 _\u0651 \u0640\u0651 _\u0652 \u0640\u0652"),
  (0xFE81, "\u0627\u0653 \u0627\u0653 \u0627\u0654 \u0627\u0654 \u0648\u0654 \u0648\u0654 \u0627\u0655 \u0627\u0655 \u064a\u0654 \u064a\u0654 \u064a\u0654 \u064a\u0654"),
  (0xFEF5, "\u0644\u0627\u0653 \u0644\u0627\u0653 \u0644\u0627\u0654 \u0644\u0627\u0654 \u0644\u0627\u0655 \u0644\u0627\u0655 \u0644\u0627 \u0644\u0627"),
  (0xFEFF, ""), (0xFFE3, "_\u0304"), (0x1D15E, "𝅗𝅥 𝅘𝅥 𝅘𝅥𝅮 𝅘𝅥𝅯 𝅘𝅥𝅰 𝅘𝅥𝅱 𝅘𝅥𝅲"),
  (0x1D1BB, "𝆹𝅥 𝆺𝅥 𝆹𝅥𝅮 𝆺𝅥𝅮 𝆹𝅥𝅯 𝆺𝅥𝅯")]

def images : List Char → List (List Char)
  | [] => [[]]
  | c :: rest =>
    if c = ' ' then [] :: images rest
    else
      match images rest with
      | [] => []
      | image :: others => ((if c = '_' then ' ' else c) :: image) :: others

/-- The letters of a Korean syllable, which follow from its place among all. -/
def syllableLetters? (n : Nat) : Option (List Char) :=
  if 0xAC00 ≤ n ∧ n < 0xAC00 + 11172 then
    let place := n - 0xAC00
    let front := [Char.ofNat (0x1100 + place / 588), Char.ofNat (0x1161 + place % 588 / 28)]
    some (if place % 28 = 0 then front else front ++ [Char.ofNat (0x11A7 + place % 28)])
  else none

/-- The image of a character. -/
def fold (c : Char) : List Char :=
  let n := c.toNat
  let one? := oneImages.findSome? fun (first, chars) =>
    if first ≤ n then chars.toList[n - first]? else none
  let several? := severalImages.findSome? fun (first, words) =>
    if first ≤ n then (images words.toList)[n - first]? else none
  match syllableLetters? n, one?, several? with
  | some cs, _, _ => cs
  | none, some c, _ => [c]
  | none, none, some cs => cs
  | none, none, none => [c]

end Prepared
end ScopeChain
