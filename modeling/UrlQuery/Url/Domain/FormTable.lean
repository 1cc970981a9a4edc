import UrlQuery.Unicode.Run

/-!
# Tables of the characters of domain names

What the characters above ASCII become in a domain name, besides their lower-case forms: the table
of UTS #46 for Unicode 17. Characters that only look different become the plain ones.
-/

namespace UrlQuery.Domain

open Unicode (Run Shift)

/-- The code points from `first` to `last`, and the letter that each becomes. -/
structure LetterForms where
  first : Nat
  last : Nat
  letters : String
  deriving DecidableEq, Repr

/-- The code points from `first` to `last`, and the text that each becomes. -/
structure TextForms where
  first : Nat
  last : Nat
  texts : List String
  deriving DecidableEq, Repr

/-- Runs of characters that all move by one distance. Those that move by 0 stay as they are: the
capitals of Cherokee, and the two joiners. -/
def shiftedForms : List Shift :=
  [ ⟨0x13A0, 0x13F5, 1, 0⟩, ⟨0x13F8, 0x13FD, 1, -8⟩, ⟨0x1D33, 0x1D3A, 1, -7372⟩,
    ⟨0x200C, 0x200D, 1, 0⟩, ⟨0x2074, 0x2079, 1, -8256⟩, ⟨0x2080, 0x2089, 1, -8272⟩,
    ⟨0x2460, 0x2468, 1, -9263⟩, ⟨0x24B6, 0x24CF, 1, -9301⟩, ⟨0x24D0, 0x24E9, 1, -9327⟩,
    ⟨0x313A, 0x313F, 1, -8074⟩, ⟨0x3145, 0x314E, 1, -8252⟩, ⟨0x314F, 0x3163, 1, -8174⟩,
    ⟨0x32E4, 0x32E9, 1, -538⟩, ⟨0x32F5, 0x32FA, 1, -525⟩, ⟨0xAB70, 0xABBF, 1, -38864⟩,
    ⟨0xFF01, 0xFF20, 1, -65248⟩, ⟨0xFF21, 0xFF3A, 1, -65216⟩, ⟨0xFF3B, 0xFF5E, 1, -65248⟩,
    ⟨0xFF85, 0xFF8A, 1, -52923⟩, ⟨0xFF96, 0xFF9B, 1, -52910⟩, ⟨0xFFAA, 0xFFAF, 1, -60922⟩,
    ⟨0xFFB5, 0xFFBE, 1, -61100⟩, ⟨0xFFC2, 0xFFC7, 1, -61025⟩, ⟨0xFFCA, 0xFFCF, 1, -61027⟩,
    ⟨0xFFD2, 0xFFD7, 1, -61029⟩, ⟨0x1CCD6, 0x1CCEF, 1, -117877⟩, ⟨0x1CCF0, 0x1CCF9, 1, -117952⟩,
    ⟨0x1D400, 0x1D419, 1, -119711⟩, ⟨0x1D41A, 0x1D433, 1, -119737⟩, ⟨0x1D434, 0x1D44D, 1, -119763⟩,
    ⟨0x1D44E, 0x1D454, 1, -119789⟩, ⟨0x1D456, 0x1D467, 1, -119789⟩, ⟨0x1D468, 0x1D481, 1, -119815⟩,
    ⟨0x1D482, 0x1D49B, 1, -119841⟩, ⟨0x1D4AE, 0x1D4B5, 1, -119867⟩, ⟨0x1D4BD, 0x1D4C3, 1, -119893⟩,
    ⟨0x1D4C5, 0x1D4CF, 1, -119893⟩, ⟨0x1D4D0, 0x1D4E9, 1, -119919⟩, ⟨0x1D4EA, 0x1D503, 1, -119945⟩,
    ⟨0x1D50D, 0x1D514, 1, -119971⟩, ⟨0x1D516, 0x1D51C, 1, -119971⟩, ⟨0x1D51E, 0x1D537, 1, -119997⟩,
    ⟨0x1D54A, 0x1D550, 1, -120023⟩, ⟨0x1D552, 0x1D56B, 1, -120049⟩, ⟨0x1D56C, 0x1D585, 1, -120075⟩,
    ⟨0x1D586, 0x1D59F, 1, -120101⟩, ⟨0x1D5A0, 0x1D5B9, 1, -120127⟩, ⟨0x1D5BA, 0x1D5D3, 1, -120153⟩,
    ⟨0x1D5D4, 0x1D5ED, 1, -120179⟩, ⟨0x1D5EE, 0x1D607, 1, -120205⟩, ⟨0x1D608, 0x1D621, 1, -120231⟩,
    ⟨0x1D622, 0x1D63B, 1, -120257⟩, ⟨0x1D63C, 0x1D655, 1, -120283⟩, ⟨0x1D656, 0x1D66F, 1, -120309⟩,
    ⟨0x1D670, 0x1D689, 1, -120335⟩, ⟨0x1D68A, 0x1D6A3, 1, -120361⟩, ⟨0x1D6A8, 0x1D6B8, 1, -119543⟩,
    ⟨0x1D6BA, 0x1D6C0, 1, -119543⟩, ⟨0x1D6C2, 0x1D6D2, 1, -119569⟩, ⟨0x1D6D4, 0x1D6DA, 1, -119569⟩,
    ⟨0x1D6E2, 0x1D6F2, 1, -119601⟩, ⟨0x1D6F4, 0x1D6FA, 1, -119601⟩, ⟨0x1D6FC, 0x1D70C, 1, -119627⟩,
    ⟨0x1D70E, 0x1D714, 1, -119627⟩, ⟨0x1D71C, 0x1D72C, 1, -119659⟩, ⟨0x1D72E, 0x1D734, 1, -119659⟩,
    ⟨0x1D736, 0x1D746, 1, -119685⟩, ⟨0x1D748, 0x1D74E, 1, -119685⟩, ⟨0x1D756, 0x1D766, 1, -119717⟩,
    ⟨0x1D768, 0x1D76E, 1, -119717⟩, ⟨0x1D770, 0x1D780, 1, -119743⟩, ⟨0x1D782, 0x1D788, 1, -119743⟩,
    ⟨0x1D790, 0x1D7A0, 1, -119775⟩, ⟨0x1D7A2, 0x1D7A8, 1, -119775⟩, ⟨0x1D7AA, 0x1D7BA, 1, -119801⟩,
    ⟨0x1D7BC, 0x1D7C2, 1, -119801⟩, ⟨0x1D7CE, 0x1D7D7, 1, -120734⟩, ⟨0x1D7D8, 0x1D7E1, 1, -120744⟩,
    ⟨0x1D7E2, 0x1D7EB, 1, -120754⟩, ⟨0x1D7EC, 0x1D7F5, 1, -120764⟩, ⟨0x1D7F6, 0x1D7FF, 1, -120774⟩,
    ⟨0x1E030, 0x1E038, 1, -121856⟩, ⟨0x1E03C, 0x1E046, 1, -121854⟩, ⟨0x1E051, 0x1E059, 1, -121889⟩,
    ⟨0x1E05F, 0x1E064, 1, -121884⟩, ⟨0x1F130, 0x1F149, 1, -127183⟩, ⟨0x1FBF0, 0x1FBF9, 1, -129984⟩ ]

/-- Characters that become one other character. -/
def letterForms : List LetterForms :=
  [ ⟨0xA0, 0xA0, " "⟩, ⟨0xAA, 0xAA, "a"⟩, ⟨0xB2, 0xB3, "23"⟩, ⟨0xB5, 0xB5, "μ"⟩, ⟨0xB9, 0xBA, "1o"⟩,
    ⟨0x17F, 0x17F, "s"⟩, ⟨0x2B0, 0x2B8, "hɦjrɹɻʁwy"⟩, ⟨0x2E0, 0x2E4, "ɣlsxʕ"⟩,
    ⟨0x340, 0x341, "\u0300\u0301"⟩, ⟨0x343, 0x343, "\u0313"⟩, ⟨0x345, 0x345, "ι"⟩,
    ⟨0x374, 0x374, "ʹ"⟩, ⟨0x37E, 0x37E, ";"⟩, ⟨0x387, 0x387, "·"⟩, ⟨0x3D0, 0x3D6, "βθυύϋφπ"⟩,
    ⟨0x3F0, 0x3F2, "κρσ"⟩, ⟨0x3F5, 0x3F5, "ε"⟩, ⟨0x3F9, 0x3F9, "σ"⟩, ⟨0xF0C, 0xF0C, "་"⟩,
    ⟨0x10FC, 0x10FC, "ნ"⟩, ⟨0x1C80, 0x1C88, "вдосттъѣꙋ"⟩, ⟨0x1D2C, 0x1D2E, "aæb"⟩,
    ⟨0x1D30, 0x1D32, "deǝ"⟩, ⟨0x1D3C, 0x1D4D, "oȣprtuwaɐɑᴂbdeəɛɜg"⟩,
    ⟨0x1D4F, 0x1D6A, "kmŋoɔᴖᴗptuᴝɯvᴥβγδφχiruvβγρφχ"⟩, ⟨0x1D78, 0x1D78, "н"⟩,
    ⟨0x1D9B, 0x1DBE, "ɒcɕðɜfɟɡɥɨɩɪᵻʝɭᶅʟɱɰɲɳɴɵɸʂʃƫʉʊᴜʋʌzʐʑʒ"⟩, ⟨0x1DBF, 0x1DBF, "θ"⟩,
    ⟨0x1E9B, 0x1E9B, "ṡ"⟩, ⟨0x1F71, 0x1F71, "ά"⟩, ⟨0x1F73, 0x1F73, "έ"⟩, ⟨0x1F75, 0x1F75, "ή"⟩,
    ⟨0x1F77, 0x1F77, "ί"⟩, ⟨0x1F79, 0x1F79, "ό"⟩, ⟨0x1F7B, 0x1F7B, "ύ"⟩, ⟨0x1F7D, 0x1F7D, "ώ"⟩,
    ⟨0x1FBB, 0x1FBB, "ά"⟩, ⟨0x1FBE, 0x1FBE, "ι"⟩, ⟨0x1FC9, 0x1FC9, "έ"⟩, ⟨0x1FCB, 0x1FCB, "ή"⟩,
    ⟨0x1FD3, 0x1FD3, "ΐ"⟩, ⟨0x1FDB, 0x1FDB, "ί"⟩, ⟨0x1FE3, 0x1FE3, "ΰ"⟩, ⟨0x1FEB, 0x1FEB, "ύ"⟩,
    ⟨0x1FEF, 0x1FEF, "\x60"⟩, ⟨0x1FF9, 0x1FF9, "ό"⟩, ⟨0x1FFB, 0x1FFB, "ώ"⟩,
    ⟨0x2000, 0x200A, "           "⟩, ⟨0x2011, 0x2011, "‐"⟩, ⟨0x202F, 0x202F, " "⟩,
    ⟨0x205F, 0x205F, " "⟩, ⟨0x2070, 0x2071, "0i"⟩, ⟨0x207A, 0x207F, "+−=()n"⟩,
    ⟨0x208A, 0x208E, "+−=()"⟩, ⟨0x2090, 0x209C, "aeoxəhklmnpst"⟩, ⟨0x2102, 0x2102, "c"⟩,
    ⟨0x2107, 0x2107, "ɛ"⟩, ⟨0x210A, 0x2113, "ghhhhħiill"⟩, ⟨0x2115, 0x2115, "n"⟩,
    ⟨0x2119, 0x211D, "pqrrr"⟩, ⟨0x2124, 0x2124, "z"⟩, ⟨0x2128, 0x2128, "z"⟩, ⟨0x212C, 0x212D, "bc"⟩,
    ⟨0x212F, 0x2131, "eef"⟩, ⟨0x2133, 0x2139, "mo\u05d0\u05d1\u05d2\u05d3i"⟩,
    ⟨0x213C, 0x2140, "πγγπ∑"⟩, ⟨0x2145, 0x2149, "ddeij"⟩, ⟨0x2160, 0x2160, "i"⟩,
    ⟨0x2164, 0x2164, "v"⟩, ⟨0x2169, 0x2169, "x"⟩, ⟨0x216C, 0x2170, "lcdmi"⟩, ⟨0x2174, 0x2174, "v"⟩,
    ⟨0x2179, 0x2179, "x"⟩, ⟨0x217C, 0x217F, "lcdm"⟩, ⟨0x2329, 0x232A, "〈〉"⟩, ⟨0x24EA, 0x24EA, "0"⟩,
    ⟨0x2C7C, 0x2C7D, "jv"⟩, ⟨0x2D6F, 0x2D6F, "ⵡ"⟩, ⟨0x2E9F, 0x2E9F, "母"⟩, ⟨0x2EF3, 0x2EF3, "龟"⟩,
    ⟨0x2F00, 0x2F23, "一丨丶丿乙亅二亠人儿入八冂冖冫几凵刀力勹匕匚匸十卜卩厂厶又口囗土士夂夊夕"⟩,
    ⟨0x2F24, 0x2F47, "大女子宀寸小尢尸屮山巛工己巾干幺广廴廾弋弓彐彡彳心戈戶手支攴文斗斤方无日"⟩,
    ⟨0x2F48, 0x2F6B, "曰月木欠止歹殳毋比毛氏气水火爪父爻爿片牙牛犬玄玉瓜瓦甘生用田疋疒癶白皮皿"⟩,
    ⟨0x2F6C, 0x2F8F, "目矛矢石示禸禾穴立竹米糸缶网羊羽老而耒耳聿肉臣自至臼舌舛舟艮色艸虍虫血行"⟩,
    ⟨0x2F90, 0x2FB3, "衣襾見角言谷豆豕豸貝赤走足身車辛辰辵邑酉釆里金長門阜隶隹雨靑非面革韋韭音"⟩,
    ⟨0x2FB4, 0x2FD5, "頁風飛食首香馬骨高髟鬥鬯鬲鬼魚鳥鹵鹿麥麻黃黍黑黹黽鼎鼓鼠鼻齊齒龍龜龠"⟩, ⟨0x3000, 0x3000, " "⟩,
    ⟨0x3002, 0x3002, "."⟩, ⟨0x3036, 0x3036, "〒"⟩, ⟨0x3038, 0x303A, "十卄卅"⟩,
    ⟨0x3131, 0x3139, "\u1100\u1101\u11aa\u1102\u11ac\u11ad\u1103\u1104\u1105"⟩,
    ⟨0x3140, 0x3144, "\u111a\u1106\u1107\u1108\u1121"⟩,
    ⟨0x3165, 0x3170, "\u1114\u1115\u11c7\u11c8\u11cc\u11ce\u11d3\u11d7\u11d9\u111c\u11dd\u11df"⟩,
    ⟨0x3171, 0x317C, "\u111d\u111e\u1120\u1122\u1123\u1127\u1129\u112b\u112c\u112d\u112e\u112f"⟩,
    ⟨0x317D, 0x3188, "\u1132\u1136\u1140\u1147\u114c\u11f1\u11f2\u1157\u1158\u1159\u1184\u1185"⟩,
    ⟨0x3189, 0x318E, "\u1188\u1191\u1192\u1194\u119e\u11a1"⟩, ⟨0x3192, 0x319F, "一二三四上中下甲乙丙丁天地人"⟩,
    ⟨0x3244, 0x3247, "問幼文箏"⟩,
    ⟨0x3260, 0x326B, "\u1100\u1102\u1103\u1105\u1106\u1107\u1109\u110b\u110c\u110e\u110f\u1110"⟩,
    ⟨0x326C, 0x327B, "\u1111\u1112가나다라마바사아자차카타파하"⟩, ⟨0x327E, 0x327E, "우"⟩,
    ⟨0x3280, 0x32A3, "一二三四五六七八九十月火水木金土日株有社名特財祝労秘男女適優印注項休写正"⟩, ⟨0x32A4, 0x32B0, "上中下左右医宗学監企資協夜"⟩,
    ⟨0x32D0, 0x32E3, "アイウエオカキクケコサシスセソタチツテト"⟩, ⟨0x32EA, 0x32F4, "ヒフヘホマミムメモヤユ"⟩,
    ⟨0x32FB, 0x32FE, "ワヰヱヲ"⟩, ⟨0xA69C, 0xA69D, "ъь"⟩, ⟨0xA770, 0xA770, "ꝯ"⟩,
    ⟨0xA7F1, 0xA7F4, "scfq"⟩, ⟨0xA7F8, 0xA7F9, "ħœ"⟩, ⟨0xAB5C, 0xAB5F, "ꜧꬷɫꭒ"⟩,
    ⟨0xAB69, 0xAB69, "ʍ"⟩, ⟨0xF900, 0xF923, "豈更車賈滑串句龜龜契金喇奈懶癩羅蘿螺裸邏樂洛烙珞落酪駱亂卵欄爛蘭鸞嵐濫藍"⟩,
    ⟨0xF924, 0xF947, "襤拉臘蠟廊朗浪狼郎來冷勞擄櫓爐盧老蘆虜路露魯鷺碌祿綠菉錄鹿論壟弄籠聾牢磊"⟩,
    ⟨0xF948, 0xF96B, "賂雷壘屢樓淚漏累縷陋勒肋凜凌稜綾菱陵讀拏樂諾丹寧怒率異北磻便復不泌數索參"⟩,
    ⟨0xF96C, 0xF98F, "塞省葉說殺辰沈拾若掠略亮兩凉梁糧良諒量勵呂女廬旅濾礪閭驪麗黎力曆歷轢年憐"⟩,
    ⟨0xF990, 0xF9B3, "戀撚漣煉璉秊練聯輦蓮連鍊列劣咽烈裂說廉念捻殮簾獵令囹寧嶺怜玲瑩羚聆鈴零靈"⟩,
    ⟨0xF9B4, 0xF9D7, "領例禮醴隸惡了僚寮尿料樂燎療蓼遼龍暈阮劉杻柳流溜琉留硫紐類六戮陸倫崙淪輪"⟩,
    ⟨0xF9D8, 0xF9FB, "律慄栗率隆利吏履易李梨泥理痢罹裏裡里離匿溺吝燐璘藺隣鱗麟林淋臨立笠粒狀炙"⟩,
    ⟨0xF9FC, 0xFA0D, "識什茶刺切度拓糖宅洞暴輻行降見廓兀嗀"⟩, ⟨0xFA10, 0xFA10, "塚"⟩, ⟨0xFA12, 0xFA12, "晴"⟩,
    ⟨0xFA15, 0xFA1E, "凞猪益礼神祥福靖精羽"⟩, ⟨0xFA20, 0xFA20, "蘒"⟩, ⟨0xFA22, 0xFA22, "諸"⟩,
    ⟨0xFA25, 0xFA26, "逸都"⟩, ⟨0xFA2A, 0xFA4D, "飯飼館鶴郞隷侮僧免勉勤卑喝嘆器塀墨層屮悔慨憎懲敏既暑梅海渚漢煮爫琢碑社祉"⟩,
    ⟨0xFA4E, 0xFA6D, "祈祐祖祝禍禎穀突節練縉繁署者臭艹艹著褐視謁謹賓贈辶逸難響頻恵𤋮舘"⟩,
    ⟨0xFA70, 0xFA93, "並况全侀充冀勇勺喝啕喙嗢塚墳奄奔婢嬨廒廙彩徭惘慎愈憎慠懲戴揄搜摒敖晴朗望"⟩,
    ⟨0xFA94, 0xFAB7, "杖歹殺流滛滋漢瀞煮瞧爵犯猪瑱甆画瘝瘟益盛直睊着磌窱節类絛練缾者荒華蝹襁覆"⟩,
    ⟨0xFAB8, 0xFAD9, "視調諸請謁諾諭謹變贈輸遲醙鉶陼難靖韛響頋頻鬒龜𢡊𢡄𣏕㮝䀘䀹𥉉𥳐𧻓齃龎"⟩,
    ⟨0xFB20, 0xFB29, "\u05e2\u05d0\u05d3\u05d4\u05db\u05dc\u05dd\u05e8\u05ea+"⟩,
    ⟨0xFB50, 0xFB5B, "\u0671\u0671\u067b\u067b\u067b\u067b\u067e\u067e\u067e\u067e\u0680\u0680"⟩,
    ⟨0xFB5C, 0xFB67, "\u0680\u0680\u067a\u067a\u067a\u067a\u067f\u067f\u067f\u067f\u0679\u0679"⟩,
    ⟨0xFB68, 0xFB73, "\u0679\u0679\u06a4\u06a4\u06a4\u06a4\u06a6\u06a6\u06a6\u06a6\u0684\u0684"⟩,
    ⟨0xFB74, 0xFB7F, "\u0684\u0684\u0683\u0683\u0683\u0683\u0686\u0686\u0686\u0686\u0687\u0687"⟩,
    ⟨0xFB80, 0xFB8B, "\u0687\u0687\u068d\u068d\u068c\u068c\u068e\u068e\u0688\u0688\u0698\u0698"⟩,
    ⟨0xFB8C, 0xFB97, "\u0691\u0691\u06a9\u06a9\u06a9\u06a9\u06af\u06af\u06af\u06af\u06b3\u06b3"⟩,
    ⟨0xFB98, 0xFBA3, "\u06b3\u06b3\u06b1\u06b1\u06b1\u06b1\u06ba\u06ba\u06bb\u06bb\u06bb\u06bb"⟩,
    ⟨0xFBA4, 0xFBAF, "\u06c0\u06c0\u06c1\u06c1\u06c1\u06c1\u06be\u06be\u06be\u06be\u06d2\u06d2"⟩,
    ⟨0xFBB0, 0xFBB1, "\u06d3\u06d3"⟩,
    ⟨0xFBD3, 0xFBDC, "\u06ad\u06ad\u06ad\u06ad\u06c7\u06c7\u06c6\u06c6\u06c8\u06c8"⟩,
    ⟨0xFBDE, 0xFBE9, "\u06cb\u06cb\u06c5\u06c5\u06c9\u06c9\u06d0\u06d0\u06d0\u06d0\u0649\u0649"⟩,
    ⟨0xFBFC, 0xFBFF, "\u06cc\u06cc\u06cc\u06cc"⟩, ⟨0xFE10, 0xFE11, ",、"⟩,
    ⟨0xFE13, 0xFE18, ":;!?〖〗"⟩, ⟨0xFE31, 0xFE44, "—–__()\x7b\x7d〔〕【】《》〈〉「」『』"⟩,
    ⟨0xFE47, 0xFE48, "[]"⟩, ⟨0xFE4D, 0xFE51, "___,、"⟩,
    ⟨0xFE54, 0xFE66, ";:?!—()\x7b\x7d〔〕#&*+-<>="⟩, ⟨0xFE68, 0xFE6B, "\\$%@"⟩,
    ⟨0xFE80, 0xFE8B, "\u0621\u0622\u0622\u0623\u0623\u0624\u0624\u0625\u0625\u0626\u0626\u0626"⟩,
    ⟨0xFE8C, 0xFE97, "\u0626\u0627\u0627\u0628\u0628\u0628\u0628\u0629\u0629\u062a\u062a\u062a"⟩,
    ⟨0xFE98, 0xFEA3, "\u062a\u062b\u062b\u062b\u062b\u062c\u062c\u062c\u062c\u062d\u062d\u062d"⟩,
    ⟨0xFEA4, 0xFEAF, "\u062d\u062e\u062e\u062e\u062e\u062f\u062f\u0630\u0630\u0631\u0631\u0632"⟩,
    ⟨0xFEB0, 0xFEBB, "\u0632\u0633\u0633\u0633\u0633\u0634\u0634\u0634\u0634\u0635\u0635\u0635"⟩,
    ⟨0xFEBC, 0xFEC7, "\u0635\u0636\u0636\u0636\u0636\u0637\u0637\u0637\u0637\u0638\u0638\u0638"⟩,
    ⟨0xFEC8, 0xFED3, "\u0638\u0639\u0639\u0639\u0639\u063a\u063a\u063a\u063a\u0641\u0641\u0641"⟩,
    ⟨0xFED4, 0xFEDF, "\u0641\u0642\u0642\u0642\u0642\u0643\u0643\u0643\u0643\u0644\u0644\u0644"⟩,
    ⟨0xFEE0, 0xFEEB, "\u0644\u0645\u0645\u0645\u0645\u0646\u0646\u0646\u0646\u0647\u0647\u0647"⟩,
    ⟨0xFEEC, 0xFEF4, "\u0647\u0648\u0648\u0649\u0649\u064a\u064a\u064a\u064a"⟩,
    ⟨0xFF5F, 0xFF82, "⦅⦆.「」、・ヲァィゥェォャュョッーアイウエオカキクケコサシスセソタチツ"⟩, ⟨0xFF83, 0xFF84, "テト"⟩,
    ⟨0xFF8B, 0xFF95, "ヒフヘホマミムメモヤユ"⟩, ⟨0xFF9C, 0xFF9F, "ワン\u3099\u309a"⟩,
    ⟨0xFFA1, 0xFFA9, "\u1100\u1101\u11aa\u1102\u11ac\u11ad\u1103\u1104\u1105"⟩,
    ⟨0xFFB0, 0xFFB4, "\u111a\u1106\u1107\u1108\u1121"⟩, ⟨0xFFDA, 0xFFDC, "\u1173\u1174\u1175"⟩,
    ⟨0xFFE0, 0xFFE2, "¢£¬"⟩, ⟨0xFFE4, 0xFFE6, "¦¥₩"⟩, ⟨0xFFE8, 0xFFEE, "│←↑→↓■○"⟩,
    ⟨0x10781, 0x10785, "ːˑæʙɓ"⟩, ⟨0x10787, 0x107AA, "ʣꭦʥʤɖɗᶑɘɞʩɤɢɠʛħʜɧʄʪʫɬ𝼄ꞎɮ𝼅ʎ𝼆øɶɷqɺ𝼈ɽɾʀ"⟩,
    ⟨0x107AB, 0x107B0, "ʨʦꭧʧʈⱱ"⟩, ⟨0x107B2, 0x107BA, "ʏʡʢʘǀǁǂ𝼊𝼞"⟩, ⟨0x1D49C, 0x1D49C, "a"⟩,
    ⟨0x1D49E, 0x1D49F, "cd"⟩, ⟨0x1D4A2, 0x1D4A2, "g"⟩, ⟨0x1D4A5, 0x1D4A6, "jk"⟩,
    ⟨0x1D4A9, 0x1D4AC, "nopq"⟩, ⟨0x1D4B6, 0x1D4B9, "abcd"⟩, ⟨0x1D4BB, 0x1D4BB, "f"⟩,
    ⟨0x1D504, 0x1D505, "ab"⟩, ⟨0x1D507, 0x1D50A, "defg"⟩, ⟨0x1D538, 0x1D539, "ab"⟩,
    ⟨0x1D53B, 0x1D53E, "defg"⟩, ⟨0x1D540, 0x1D544, "ijklm"⟩, ⟨0x1D546, 0x1D546, "o"⟩,
    ⟨0x1D6A4, 0x1D6A5, "ıȷ"⟩, ⟨0x1D6B9, 0x1D6B9, "θ"⟩, ⟨0x1D6C1, 0x1D6C1, "∇"⟩,
    ⟨0x1D6D3, 0x1D6D3, "σ"⟩, ⟨0x1D6DB, 0x1D6E1, "∂εθκφρπ"⟩, ⟨0x1D6F3, 0x1D6F3, "θ"⟩,
    ⟨0x1D6FB, 0x1D6FB, "∇"⟩, ⟨0x1D70D, 0x1D70D, "σ"⟩, ⟨0x1D715, 0x1D71B, "∂εθκφρπ"⟩,
    ⟨0x1D72D, 0x1D72D, "θ"⟩, ⟨0x1D735, 0x1D735, "∇"⟩, ⟨0x1D747, 0x1D747, "σ"⟩,
    ⟨0x1D74F, 0x1D755, "∂εθκφρπ"⟩, ⟨0x1D767, 0x1D767, "θ"⟩, ⟨0x1D76F, 0x1D76F, "∇"⟩,
    ⟨0x1D781, 0x1D781, "σ"⟩, ⟨0x1D789, 0x1D78F, "∂εθκφρπ"⟩, ⟨0x1D7A1, 0x1D7A1, "θ"⟩,
    ⟨0x1D7A9, 0x1D7A9, "∇"⟩, ⟨0x1D7BB, 0x1D7BB, "σ"⟩, ⟨0x1D7C3, 0x1D7CB, "∂εθκφρπϝϝ"⟩,
    ⟨0x1E039, 0x1E03B, "клм"⟩, ⟨0x1E047, 0x1E050, "ыэюꚉәіјөүӏ"⟩, ⟨0x1E05A, 0x1E05E, "клопс"⟩,
    ⟨0x1E065, 0x1E06D, "ъыґіѕџҫꙑұ"⟩, ⟨0x1EE00, 0x1EE03, "\u0627\u0628\u062c\u062f"⟩,
    ⟨0x1EE05, 0x1EE10, "\u0648\u0632\u062d\u0637\u064a\u0643\u0644\u0645\u0646\u0633\u0639\u0641"⟩,
    ⟨0x1EE11, 0x1EE1C, "\u0635\u0642\u0631\u0634\u062a\u062b\u062e\u0630\u0636\u0638\u063a\u066e"⟩,
    ⟨0x1EE1D, 0x1EE1F, "\u06ba\u06a1\u066f"⟩, ⟨0x1EE21, 0x1EE22, "\u0628\u062c"⟩,
    ⟨0x1EE24, 0x1EE24, "\u0647"⟩, ⟨0x1EE27, 0x1EE27, "\u062d"⟩,
    ⟨0x1EE29, 0x1EE32, "\u064a\u0643\u0644\u0645\u0646\u0633\u0639\u0641\u0635\u0642"⟩,
    ⟨0x1EE34, 0x1EE37, "\u0634\u062a\u062b\u062e"⟩, ⟨0x1EE39, 0x1EE39, "\u0636"⟩,
    ⟨0x1EE3B, 0x1EE3B, "\u063a"⟩, ⟨0x1EE42, 0x1EE42, "\u062c"⟩, ⟨0x1EE47, 0x1EE47, "\u062d"⟩,
    ⟨0x1EE49, 0x1EE49, "\u064a"⟩, ⟨0x1EE4B, 0x1EE4B, "\u0644"⟩,
    ⟨0x1EE4D, 0x1EE4F, "\u0646\u0633\u0639"⟩, ⟨0x1EE51, 0x1EE52, "\u0635\u0642"⟩,
    ⟨0x1EE54, 0x1EE54, "\u0634"⟩, ⟨0x1EE57, 0x1EE57, "\u062e"⟩, ⟨0x1EE59, 0x1EE59, "\u0636"⟩,
    ⟨0x1EE5B, 0x1EE5B, "\u063a"⟩, ⟨0x1EE5D, 0x1EE5D, "\u06ba"⟩, ⟨0x1EE5F, 0x1EE5F, "\u066f"⟩,
    ⟨0x1EE61, 0x1EE62, "\u0628\u062c"⟩, ⟨0x1EE64, 0x1EE64, "\u0647"⟩,
    ⟨0x1EE67, 0x1EE6A, "\u062d\u0637\u064a\u0643"⟩,
    ⟨0x1EE6C, 0x1EE72, "\u0645\u0646\u0633\u0639\u0641\u0635\u0642"⟩,
    ⟨0x1EE74, 0x1EE77, "\u0634\u062a\u062b\u062e"⟩, ⟨0x1EE79, 0x1EE7C, "\u0636\u0638\u063a\u066e"⟩,
    ⟨0x1EE7E, 0x1EE7E, "\u06a1"⟩,
    ⟨0x1EE80, 0x1EE89, "\u0627\u0628\u062c\u062f\u0647\u0648\u0632\u062d\u0637\u064a"⟩,
    ⟨0x1EE8B, 0x1EE96, "\u0644\u0645\u0646\u0633\u0639\u0641\u0635\u0642\u0631\u0634\u062a\u062b"⟩,
    ⟨0x1EE97, 0x1EE9B, "\u062e\u0630\u0636\u0638\u063a"⟩, ⟨0x1EEA1, 0x1EEA3, "\u0628\u062c\u062f"⟩,
    ⟨0x1EEA5, 0x1EEA9, "\u0648\u0632\u062d\u0637\u064a"⟩,
    ⟨0x1EEAB, 0x1EEB6, "\u0644\u0645\u0646\u0633\u0639\u0641\u0635\u0642\u0631\u0634\u062a\u062b"⟩,
    ⟨0x1EEB7, 0x1EEBB, "\u062e\u0630\u0636\u0638\u063a"⟩, ⟨0x1F12B, 0x1F12C, "cr"⟩,
    ⟨0x1F202, 0x1F202, "サ"⟩, ⟨0x1F210, 0x1F233, "手字双デ二多解天交映無料前後再新初終生販声吹演投捕一三遊左中右指走打禁空"⟩,
    ⟨0x1F234, 0x1F23B, "合満有月申割営配"⟩, ⟨0x1F250, 0x1F251, "得可"⟩,
    ⟨0x2F800, 0x2F823, "丽丸乁𠄢你侮侻倂偺備僧像㒞𠘺免兔兤具𠔜㒹內再𠕋冗冤仌冬况𩇟凵刃㓟刻剆割剷"⟩,
    ⟨0x2F824, 0x2F847, "㔕勇勉勤勺包匆北卉卑博即卽卿卿卿𠨬灰及叟𠭣叫叱吆咞吸呈周咢哶唐啓啣善善喙"⟩,
    ⟨0x2F848, 0x2F86B, "喫喳嗂圖嘆圗噑噴切壮城埴堍型堲報墬𡓤売壷夆多夢奢𡚨𡛪姬娛娧姘婦㛮㛼嬈嬾嬾"⟩,
    ⟨0x2F86C, 0x2F88F, "𡧈寃寘寧寳𡬘寿将当尢㞁屠屮峀岍𡷤嵃𡷦嵮嵫嵼巡巢㠯巽帨帽幩㡢𢆃㡼庰庳庶廊𪎒"⟩,
    ⟨0x2F890, 0x2F8B3, "廾𢌱𢌱舁弢弢㣇𣊸𦇚形彫㣣徚忍志忹悁㤺㤜悔𢛔惇慈慌慎慌慺憎憲憤憯懞懲懶成戛"⟩,
    ⟨0x2F8B4, 0x2F8D7, "扝抱拔捐𢬌挽拼捨掃揤𢯱搢揅掩㨮摩摾撝摷㩬敏敬𣀊旣書晉㬙暑㬈㫤冒冕最暜肭䏙"⟩,
    ⟨0x2F8D8, 0x2F8FB, "朗望朡杞杓𣏃㭉柺枅桒梅𣑭梎栟椔㮝楂榣槪檨𣚣櫛㰘次𣢧歔㱎歲殟殺殻𣪍𡴋𣫺汎𣲼"⟩,
    ⟨0x2F8FC, 0x2F91F, "沿泍汧洖派海流浩浸涅𣴞洴港湮㴳滋滇𣻑淹潮𣽞𣾎濆瀹瀞瀛㶖灊災灷炭𠔥煅𤉣熜𤎫"⟩,
    ⟨0x2F920, 0x2F943, "爨爵牐𤘈犀犕𤜵𤠔獺王㺬玥㺸㺸瑇瑜瑱璅瓊㼛甤𤰶甾𤲒異𢆟瘐𤾡𤾸𥁄㿼䀈直𥃳𥃲𥄙"⟩,
    ⟨0x2F944, 0x2F967, "𥄳眞真真睊䀹瞋䁆䂖𥐝硎碌磌䃣𥘦祖𥚚𥛅福秫䄯穀穊穏𥥼𥪧𥪧竮䈂𥮫篆築䈧𥲀糒䊠"⟩,
    ⟨0x2F968, 0x2F98B, "糨糣紀𥾆絣䌁緇縂繅䌴𦈨𦉇䍙𦋙罺𦌾羕翺者𦓚𦔣聠𦖨聰𣍟䏕育脃䐋脾媵𦞧𦞵𣎓𣎜舁"⟩,
    ⟨0x2F98C, 0x2F9AF, "舄辞䑫芑芋芝劳花芳芽苦𦬼若茝荣莭茣莽菧著荓菊菌菜𦰶𦵫𦳕䔫蓱蓳蔖𧏊蕤𦼬䕝䕡"⟩,
    ⟨0x2F9B0, 0x2F9D3, "𦾱𧃒䕫虐虜虧虩蚩蚈蜎蛢蝹蜨蝫螆䗗蟡蠁䗹衠衣𧙧裗裞䘵裺㒻𧢮𧥦䚾䛇誠諭變豕𧲨"⟩,
    ⟨0x2F9D4, 0x2F9F7, "貫賁贛起𧼯𠠄跋趼跰𠣞軔輸𨗒𨗭邔郱鄑𨜮鄛鈸鋗鋘鉼鏹鐕𨯺開䦕閷𨵷䧦雃嶲霣𩅅𩈚"⟩,
    ⟨0x2F9F8, 0x2FA1B, "䩮䩶韠𩐊䪲𩒖頋頋頩𩖶飢䬳餩馧駂駾䯎𩬰鬒鱀鳽䳎䳭鵧𪃎䳸𪄅𪈎𪊑麻䵖黹黾鼅鼏鼖"⟩, ⟨0x2FA1C, 0x2FA1D, "鼻𪘀"⟩ ]

/-- Characters that become several. -/
def textForms : List TextForms :=
  [ ⟨0xA8, 0xA8, [" \u0308"]⟩, ⟨0xAF, 0xAF, [" \u0304"]⟩, ⟨0xB4, 0xB4, [" \u0301"]⟩,
    ⟨0xB8, 0xB8, [" \u0327"]⟩, ⟨0xBC, 0xBE, ["1⁄4", "1⁄2", "3⁄4"]⟩, ⟨0x132, 0x133, ["ij", "ij"]⟩,
    ⟨0x13F, 0x140, ["l·", "l·"]⟩, ⟨0x149, 0x149, ["ʼn"]⟩,
    ⟨0x1C4, 0x1CC, ["dž", "dž", "dž", "lj", "lj", "lj", "nj", "nj", "nj"]⟩,
    ⟨0x1F1, 0x1F3, ["dz", "dz", "dz"]⟩,
    ⟨0x2D8, 0x2DD, [" \u0306", " \u0307", " \u030a", " \u0328", " \u0303", " \u030b"]⟩,
    ⟨0x344, 0x344, ["\u0308\u0301"]⟩, ⟨0x37A, 0x37A, [" ι"]⟩,
    ⟨0x384, 0x385, [" \u0301", " \u0308\u0301"]⟩, ⟨0x587, 0x587, ["եւ"]⟩,
    ⟨0x675, 0x678, ["\u0627\u0674", "\u0648\u0674", "\u06c7\u0674", "\u064a\u0674"]⟩,
    ⟨0x958, 0x95E, ["क\u093c", "ख\u093c", "ग\u093c", "ज\u093c", "ड\u093c", "ढ\u093c", "फ\u093c"]⟩,
    ⟨0x95F, 0x95F, ["य\u093c"]⟩, ⟨0x9DC, 0x9DD, ["ড\u09bc", "ঢ\u09bc"]⟩,
    ⟨0x9DF, 0x9DF, ["য\u09bc"]⟩, ⟨0xA33, 0xA33, ["ਲ\u0a3c"]⟩, ⟨0xA36, 0xA36, ["ਸ\u0a3c"]⟩,
    ⟨0xA59, 0xA5B, ["ਖ\u0a3c", "ਗ\u0a3c", "ਜ\u0a3c"]⟩, ⟨0xA5E, 0xA5E, ["ਫ\u0a3c"]⟩,
    ⟨0xB5C, 0xB5D, ["ଡ\u0b3c", "ଢ\u0b3c"]⟩, ⟨0xE33, 0xE33, ["\u0e4dา"]⟩,
    ⟨0xEB3, 0xEB3, ["\u0ecdາ"]⟩, ⟨0xEDC, 0xEDD, ["ຫນ", "ຫມ"]⟩, ⟨0xF43, 0xF43, ["ག\u0fb7"]⟩,
    ⟨0xF4D, 0xF4D, ["ཌ\u0fb7"]⟩, ⟨0xF52, 0xF52, ["ད\u0fb7"]⟩, ⟨0xF57, 0xF57, ["བ\u0fb7"]⟩,
    ⟨0xF5C, 0xF5C, ["ཛ\u0fb7"]⟩, ⟨0xF69, 0xF69, ["ཀ\u0fb5"]⟩, ⟨0xF73, 0xF73, ["\u0f71\u0f72"]⟩,
    ⟨0xF75, 0xF78, ["\u0f71\u0f74", "\u0fb2\u0f80", "\u0fb2\u0f71\u0f80", "\u0fb3\u0f80"]⟩,
    ⟨0xF79, 0xF79, ["\u0fb3\u0f71\u0f80"]⟩, ⟨0xF81, 0xF81, ["\u0f71\u0f80"]⟩,
    ⟨0xF93, 0xF93, ["\u0f92\u0fb7"]⟩, ⟨0xF9D, 0xF9D, ["\u0f9c\u0fb7"]⟩,
    ⟨0xFA2, 0xFA2, ["\u0fa1\u0fb7"]⟩, ⟨0xFA7, 0xFA7, ["\u0fa6\u0fb7"]⟩,
    ⟨0xFAC, 0xFAC, ["\u0fab\u0fb7"]⟩, ⟨0xFB9, 0xFB9, ["\u0f90\u0fb5"]⟩, ⟨0x1E9A, 0x1E9A, ["aʾ"]⟩,
    ⟨0x1F80, 0x1F8B, ["ἀι", "ἁι", "ἂι", "ἃι", "ἄι", "ἅι", "ἆι", "ἇι", "ἀι", "ἁι", "ἂι", "ἃι"]⟩,
    ⟨0x1F8C, 0x1F97, ["ἄι", "ἅι", "ἆι", "ἇι", "ἠι", "ἡι", "ἢι", "ἣι", "ἤι", "ἥι", "ἦι", "ἧι"]⟩,
    ⟨0x1F98, 0x1FA3, ["ἠι", "ἡι", "ἢι", "ἣι", "ἤι", "ἥι", "ἦι", "ἧι", "ὠι", "ὡι", "ὢι", "ὣι"]⟩,
    ⟨0x1FA4, 0x1FAF, ["ὤι", "ὥι", "ὦι", "ὧι", "ὠι", "ὡι", "ὢι", "ὣι", "ὤι", "ὥι", "ὦι", "ὧι"]⟩,
    ⟨0x1FB2, 0x1FB4, ["ὰι", "αι", "άι"]⟩, ⟨0x1FB7, 0x1FB7, ["ᾶι"]⟩,
    ⟨0x1FBC, 0x1FBD, ["αι", " \u0313"]⟩,
    ⟨0x1FBF, 0x1FC4, [" \u0313", " \u0342", " \u0308\u0342", "ὴι", "ηι", "ήι"]⟩,
    ⟨0x1FC7, 0x1FC7, ["ῆι"]⟩,
    ⟨0x1FCC, 0x1FCF, ["ηι", " \u0313\u0300", " \u0313\u0301", " \u0313\u0342"]⟩,
    ⟨0x1FDD, 0x1FDF, [" \u0314\u0300", " \u0314\u0301", " \u0314\u0342"]⟩,
    ⟨0x1FED, 0x1FEE, [" \u0308\u0300", " \u0308\u0301"]⟩, ⟨0x1FF2, 0x1FF4, ["ὼι", "ωι", "ώι"]⟩,
    ⟨0x1FF7, 0x1FF7, ["ῶι"]⟩, ⟨0x1FFC, 0x1FFE, ["ωι", " \u0301", " \u0314"]⟩,
    ⟨0x2017, 0x2017, [" \u0333"]⟩, ⟨0x2033, 0x2034, ["′′", "′′′"]⟩, ⟨0x2036, 0x2037, ["‵‵", "‵‵‵"]⟩,
    ⟨0x203C, 0x203C, ["!!"]⟩, ⟨0x203E, 0x203E, [" \u0305"]⟩, ⟨0x2047, 0x2049, ["??", "?!", "!?"]⟩,
    ⟨0x2057, 0x2057, ["′′′′"]⟩, ⟨0x20A8, 0x20A8, ["rs"]⟩, ⟨0x2100, 0x2101, ["a/c", "a/s"]⟩,
    ⟨0x2103, 0x2103, ["°c"]⟩, ⟨0x2105, 0x2106, ["c/o", "c/u"]⟩, ⟨0x2109, 0x2109, ["°f"]⟩,
    ⟨0x2116, 0x2116, ["no"]⟩, ⟨0x2120, 0x2122, ["sm", "tel", "tm"]⟩, ⟨0x213B, 0x213B, ["fax"]⟩,
    ⟨0x2150, 0x2159, ["1⁄7", "1⁄9", "1⁄10", "1⁄3", "2⁄3", "1⁄5", "2⁄5", "3⁄5", "4⁄5", "1⁄6"]⟩,
    ⟨0x215A, 0x215F, ["5⁄6", "1⁄8", "3⁄8", "5⁄8", "7⁄8", "1⁄"]⟩,
    ⟨0x2161, 0x2163, ["ii", "iii", "iv"]⟩, ⟨0x2165, 0x2168, ["vi", "vii", "viii", "ix"]⟩,
    ⟨0x216A, 0x216B, ["xi", "xii"]⟩, ⟨0x2171, 0x2173, ["ii", "iii", "iv"]⟩,
    ⟨0x2175, 0x2178, ["vi", "vii", "viii", "ix"]⟩, ⟨0x217A, 0x217B, ["xi", "xii"]⟩,
    ⟨0x2189, 0x2189, ["0⁄3"]⟩, ⟨0x222C, 0x222D, ["∫∫", "∫∫∫"]⟩, ⟨0x222F, 0x2230, ["∮∮", "∮∮∮"]⟩,
    ⟨0x2469, 0x2474, ["10", "11", "12", "13", "14", "15", "16", "17", "18", "19", "20", "(1)"]⟩,
    ⟨0x2475, 0x247E, ["(2)", "(3)", "(4)", "(5)", "(6)", "(7)", "(8)", "(9)", "(10)", "(11)"]⟩,
    ⟨0x247F, 0x2487, ["(12)", "(13)", "(14)", "(15)", "(16)", "(17)", "(18)", "(19)", "(20)"]⟩,
    ⟨0x249C, 0x24A5, ["(a)", "(b)", "(c)", "(d)", "(e)", "(f)", "(g)", "(h)", "(i)", "(j)"]⟩,
    ⟨0x24A6, 0x24AF, ["(k)", "(l)", "(m)", "(n)", "(o)", "(p)", "(q)", "(r)", "(s)", "(t)"]⟩,
    ⟨0x24B0, 0x24B5, ["(u)", "(v)", "(w)", "(x)", "(y)", "(z)"]⟩, ⟨0x2A0C, 0x2A0C, ["∫∫∫∫"]⟩,
    ⟨0x2A74, 0x2A76, ["::=", "==", "==="]⟩, ⟨0x2ADC, 0x2ADC, ["⫝\u0338"]⟩,
    ⟨0x309B, 0x309C, [" \u3099", " \u309a"]⟩, ⟨0x309F, 0x309F, ["より"]⟩, ⟨0x30FF, 0x30FF, ["コト"]⟩,
    ⟨0x3200, 0x3205, ["(\u1100)", "(\u1102)", "(\u1103)", "(\u1105)", "(\u1106)", "(\u1107)"]⟩,
    ⟨0x3206, 0x320B, ["(\u1109)", "(\u110b)", "(\u110c)", "(\u110e)", "(\u110f)", "(\u1110)"]⟩,
    ⟨0x320C, 0x3214, ["(\u1111)", "(\u1112)", "(가)", "(나)", "(다)", "(라)", "(마)", "(바)", "(사)"]⟩,
    ⟨0x3215, 0x321E, ["(아)", "(자)", "(차)", "(카)", "(타)", "(파)", "(하)", "(주)", "(오전)", "(오후)"]⟩,
    ⟨0x3220, 0x3229, ["(一)", "(二)", "(三)", "(四)", "(五)", "(六)", "(七)", "(八)", "(九)", "(十)"]⟩,
    ⟨0x322A, 0x3233, ["(月)", "(火)", "(水)", "(木)", "(金)", "(土)", "(日)", "(株)", "(有)", "(社)"]⟩,
    ⟨0x3234, 0x323D, ["(名)", "(特)", "(財)", "(祝)", "(労)", "(代)", "(呼)", "(学)", "(監)", "(企)"]⟩,
    ⟨0x323E, 0x3243, ["(資)", "(協)", "(祭)", "(休)", "(自)", "(至)"]⟩,
    ⟨0x3250, 0x325B, ["pte", "21", "22", "23", "24", "25", "26", "27", "28", "29", "30", "31"]⟩,
    ⟨0x325C, 0x325F, ["32", "33", "34", "35"]⟩, ⟨0x327C, 0x327D, ["참고", "주의"]⟩,
    ⟨0x32B1, 0x32BC, ["36", "37", "38", "39", "40", "41", "42", "43", "44", "45", "46", "47"]⟩,
    ⟨0x32BD, 0x32C8, ["48", "49", "50", "1月", "2月", "3月", "4月", "5月", "6月", "7月", "8月", "9月"]⟩,
    ⟨0x32C9, 0x32CF, ["10月", "11月", "12月", "hg", "erg", "ev", "ltd"]⟩,
    ⟨0x32FF, 0x3307, ["令和", "アパート", "アルファ", "アンペア", "アール", "イニング", "インチ", "ウォン", "エスクード"]⟩,
    ⟨0x3308, 0x3311, ["エーカー", "オンス", "オーム", "カイリ", "カラット", "カロリー", "ガロン", "ガンマ", "ギガ", "ギニー"]⟩,
    ⟨0x3312, 0x331A, ["キュリー", "ギルダー", "キロ", "キログラム", "キロメートル", "キロワット", "グラム", "グラムトン", "クルゼイロ"]⟩,
    ⟨0x331B, 0x3324, ["クローネ", "ケース", "コルナ", "コーポ", "サイクル", "サンチーム", "シリング", "センチ", "セント", "ダース"]⟩,
    ⟨0x3325, 0x332E, ["デシ", "ドル", "トン", "ナノ", "ノット", "ハイツ", "パーセント", "パーツ", "バーレル", "ピアストル"]⟩,
    ⟨0x332F, 0x3338, ["ピクル", "ピコ", "ビル", "ファラッド", "フィート", "ブッシェル", "フラン", "ヘクタール", "ペソ", "ペニヒ"]⟩,
    ⟨0x3339, 0x3342, ["ヘルツ", "ペンス", "ページ", "ベータ", "ポイント", "ボルト", "ホン", "ポンド", "ホール", "ホーン"]⟩,
    ⟨0x3343, 0x334C, ["マイクロ", "マイル", "マッハ", "マルク", "マンション", "ミクロン", "ミリ", "ミリバール", "メガ", "メガトン"]⟩,
    ⟨0x334D, 0x3356, ["メートル", "ヤード", "ヤール", "ユアン", "リットル", "リラ", "ルピー", "ルーブル", "レム", "レントゲン"]⟩,
    ⟨0x3357, 0x3362, ["ワット", "0点", "1点", "2点", "3点", "4点", "5点", "6点", "7点", "8点", "9点", "10点"]⟩,
    ⟨0x3363, 0x336C, ["11点", "12点", "13点", "14点", "15点", "16点", "17点", "18点", "19点", "20点"]⟩,
    ⟨0x336D, 0x3377, ["21点", "22点", "23点", "24点", "hpa", "da", "au", "bar", "ov", "pc", "dm"]⟩,
    ⟨0x3378, 0x3382, ["dm2", "dm3", "iu", "平成", "昭和", "大正", "明治", "株式会社", "pa", "na", "μa"]⟩,
    ⟨0x3383, 0x338E, ["ma", "ka", "kb", "mb", "gb", "cal", "kcal", "pf", "nf", "μf", "μg", "mg"]⟩,
    ⟨0x338F, 0x3399, ["kg", "hz", "khz", "mhz", "ghz", "thz", "μl", "ml", "dl", "kl", "fm"]⟩,
    ⟨0x339A, 0x33A4, ["nm", "μm", "mm", "cm", "km", "mm2", "cm2", "m2", "km2", "mm3", "cm3"]⟩,
    ⟨0x33A5, 0x33AE, ["m3", "km3", "m∕s", "m∕s2", "pa", "kpa", "mpa", "gpa", "rad", "rad∕s"]⟩,
    ⟨0x33AF, 0x33B9, ["rad∕s2", "ps", "ns", "μs", "ms", "pv", "nv", "μv", "mv", "kv", "mv"]⟩,
    ⟨0x33BA, 0x33C1, ["pw", "nw", "μw", "mw", "kw", "mw", "kω", "mω"]⟩,
    ⟨0x33C3, 0x33C6, ["bq", "cc", "cd", "c∕kg"]⟩,
    ⟨0x33C8, 0x33D3, ["db", "gy", "ha", "hp", "in", "kk", "km", "kt", "lm", "ln", "log", "lx"]⟩,
    ⟨0x33D4, 0x33D7, ["mb", "mil", "mol", "ph"]⟩,
    ⟨0x33D9, 0x33E4, ["ppm", "pr", "sr", "sv", "wb", "v∕m", "a∕m", "1日", "2日", "3日", "4日", "5日"]⟩,
    ⟨0x33E5, 0x33EF, ["6日", "7日", "8日", "9日", "10日", "11日", "12日", "13日", "14日", "15日", "16日"]⟩,
    ⟨0x33F0, 0x33F9, ["17日", "18日", "19日", "20日", "21日", "22日", "23日", "24日", "25日", "26日"]⟩,
    ⟨0x33FA, 0x33FF, ["27日", "28日", "29日", "30日", "31日", "gal"]⟩,
    ⟨0xFB00, 0xFB06, ["ff", "fi", "fl", "ffi", "ffl", "st", "st"]⟩,
    ⟨0xFB13, 0xFB17, ["մն", "մե", "մի", "վն", "մխ"]⟩, ⟨0xFB1D, 0xFB1D, ["\u05d9\u05b4"]⟩,
    ⟨0xFB1F, 0xFB1F, ["\u05f2\u05b7"]⟩,
    ⟨0xFB2A, 0xFB2C, ["\u05e9\u05c1", "\u05e9\u05c2", "\u05e9\u05bc\u05c1"]⟩,
    ⟨0xFB2D, 0xFB30, ["\u05e9\u05bc\u05c2", "\u05d0\u05b7", "\u05d0\u05b8", "\u05d0\u05bc"]⟩,
    ⟨0xFB31, 0xFB34, ["\u05d1\u05bc", "\u05d2\u05bc", "\u05d3\u05bc", "\u05d4\u05bc"]⟩,
    ⟨0xFB35, 0xFB36, ["\u05d5\u05bc", "\u05d6\u05bc"]⟩,
    ⟨0xFB38, 0xFB3B, ["\u05d8\u05bc", "\u05d9\u05bc", "\u05da\u05bc", "\u05db\u05bc"]⟩,
    ⟨0xFB3C, 0xFB3C, ["\u05dc\u05bc"]⟩, ⟨0xFB3E, 0xFB3E, ["\u05de\u05bc"]⟩,
    ⟨0xFB40, 0xFB41, ["\u05e0\u05bc", "\u05e1\u05bc"]⟩,
    ⟨0xFB43, 0xFB44, ["\u05e3\u05bc", "\u05e4\u05bc"]⟩,
    ⟨0xFB46, 0xFB49, ["\u05e6\u05bc", "\u05e7\u05bc", "\u05e8\u05bc", "\u05e9\u05bc"]⟩,
    ⟨0xFB4A, 0xFB4D, ["\u05ea\u05bc", "\u05d5\u05b9", "\u05d1\u05bf", "\u05db\u05bf"]⟩,
    ⟨0xFB4E, 0xFB4F, ["\u05e4\u05bf", "\u05d0\u05dc"]⟩, ⟨0xFBDD, 0xFBDD, ["\u06c7\u0674"]⟩,
    ⟨0xFBEA, 0xFBED, ["\u0626\u0627", "\u0626\u0627", "\u0626\u06d5", "\u0626\u06d5"]⟩,
    ⟨0xFBEE, 0xFBF1, ["\u0626\u0648", "\u0626\u0648", "\u0626\u06c7", "\u0626\u06c7"]⟩,
    ⟨0xFBF2, 0xFBF5, ["\u0626\u06c6", "\u0626\u06c6", "\u0626\u06c8", "\u0626\u06c8"]⟩,
    ⟨0xFBF6, 0xFBF9, ["\u0626\u06d0", "\u0626\u06d0", "\u0626\u06d0", "\u0626\u0649"]⟩,
    ⟨0xFBFA, 0xFBFB, ["\u0626\u0649", "\u0626\u0649"]⟩,
    ⟨0xFC00, 0xFC03, ["\u0626\u062c", "\u0626\u062d", "\u0626\u0645", "\u0626\u0649"]⟩,
    ⟨0xFC04, 0xFC07, ["\u0626\u064a", "\u0628\u062c", "\u0628\u062d", "\u0628\u062e"]⟩,
    ⟨0xFC08, 0xFC0B, ["\u0628\u0645", "\u0628\u0649", "\u0628\u064a", "\u062a\u062c"]⟩,
    ⟨0xFC0C, 0xFC0F, ["\u062a\u062d", "\u062a\u062e", "\u062a\u0645", "\u062a\u0649"]⟩,
    ⟨0xFC10, 0xFC13, ["\u062a\u064a", "\u062b\u062c", "\u062b\u0645", "\u062b\u0649"]⟩,
    ⟨0xFC14, 0xFC17, ["\u062b\u064a", "\u062c\u062d", "\u062c\u0645", "\u062d\u062c"]⟩,
    ⟨0xFC18, 0xFC1B, ["\u062d\u0645", "\u062e\u062c", "\u062e\u062d", "\u062e\u0645"]⟩,
    ⟨0xFC1C, 0xFC1F, ["\u0633\u062c", "\u0633\u062d", "\u0633\u062e", "\u0633\u0645"]⟩,
    ⟨0xFC20, 0xFC23, ["\u0635\u062d", "\u0635\u0645", "\u0636\u062c", "\u0636\u062d"]⟩,
    ⟨0xFC24, 0xFC27, ["\u0636\u062e", "\u0636\u0645", "\u0637\u062d", "\u0637\u0645"]⟩,
    ⟨0xFC28, 0xFC2B, ["\u0638\u0645", "\u0639\u062c", "\u0639\u0645", "\u063a\u062c"]⟩,
    ⟨0xFC2C, 0xFC2F, ["\u063a\u0645", "\u0641\u062c", "\u0641\u062d", "\u0641\u062e"]⟩,
    ⟨0xFC30, 0xFC33, ["\u0641\u0645", "\u0641\u0649", "\u0641\u064a", "\u0642\u062d"]⟩,
    ⟨0xFC34, 0xFC37, ["\u0642\u0645", "\u0642\u0649", "\u0642\u064a", "\u0643\u0627"]⟩,
    ⟨0xFC38, 0xFC3B, ["\u0643\u062c", "\u0643\u062d", "\u0643\u062e", "\u0643\u0644"]⟩,
    ⟨0xFC3C, 0xFC3F, ["\u0643\u0645", "\u0643\u0649", "\u0643\u064a", "\u0644\u062c"]⟩,
    ⟨0xFC40, 0xFC43, ["\u0644\u062d", "\u0644\u062e", "\u0644\u0645", "\u0644\u0649"]⟩,
    ⟨0xFC44, 0xFC47, ["\u0644\u064a", "\u0645\u062c", "\u0645\u062d", "\u0645\u062e"]⟩,
    ⟨0xFC48, 0xFC4B, ["\u0645\u0645", "\u0645\u0649", "\u0645\u064a", "\u0646\u062c"]⟩,
    ⟨0xFC4C, 0xFC4F, ["\u0646\u062d", "\u0646\u062e", "\u0646\u0645", "\u0646\u0649"]⟩,
    ⟨0xFC50, 0xFC53, ["\u0646\u064a", "\u0647\u062c", "\u0647\u0645", "\u0647\u0649"]⟩,
    ⟨0xFC54, 0xFC57, ["\u0647\u064a", "\u064a\u062c", "\u064a\u062d", "\u064a\u062e"]⟩,
    ⟨0xFC58, 0xFC5B, ["\u064a\u0645", "\u064a\u0649", "\u064a\u064a", "\u0630\u0670"]⟩,
    ⟨0xFC5C, 0xFC5F, ["\u0631\u0670", "\u0649\u0670", " \u064c\u0651", " \u064d\u0651"]⟩,
    ⟨0xFC60, 0xFC63, [" \u064e\u0651", " \u064f\u0651", " \u0650\u0651", " \u0651\u0670"]⟩,
    ⟨0xFC64, 0xFC67, ["\u0626\u0631", "\u0626\u0632", "\u0626\u0645", "\u0626\u0646"]⟩,
    ⟨0xFC68, 0xFC6B, ["\u0626\u0649", "\u0626\u064a", "\u0628\u0631", "\u0628\u0632"]⟩,
    ⟨0xFC6C, 0xFC6F, ["\u0628\u0645", "\u0628\u0646", "\u0628\u0649", "\u0628\u064a"]⟩,
    ⟨0xFC70, 0xFC73, ["\u062a\u0631", "\u062a\u0632", "\u062a\u0645", "\u062a\u0646"]⟩,
    ⟨0xFC74, 0xFC77, ["\u062a\u0649", "\u062a\u064a", "\u062b\u0631", "\u062b\u0632"]⟩,
    ⟨0xFC78, 0xFC7B, ["\u062b\u0645", "\u062b\u0646", "\u062b\u0649", "\u062b\u064a"]⟩,
    ⟨0xFC7C, 0xFC7F, ["\u0641\u0649", "\u0641\u064a", "\u0642\u0649", "\u0642\u064a"]⟩,
    ⟨0xFC80, 0xFC83, ["\u0643\u0627", "\u0643\u0644", "\u0643\u0645", "\u0643\u0649"]⟩,
    ⟨0xFC84, 0xFC87, ["\u0643\u064a", "\u0644\u0645", "\u0644\u0649", "\u0644\u064a"]⟩,
    ⟨0xFC88, 0xFC8B, ["\u0645\u0627", "\u0645\u0645", "\u0646\u0631", "\u0646\u0632"]⟩,
    ⟨0xFC8C, 0xFC8F, ["\u0646\u0645", "\u0646\u0646", "\u0646\u0649", "\u0646\u064a"]⟩,
    ⟨0xFC90, 0xFC93, ["\u0649\u0670", "\u064a\u0631", "\u064a\u0632", "\u064a\u0645"]⟩,
    ⟨0xFC94, 0xFC97, ["\u064a\u0646", "\u064a\u0649", "\u064a\u064a", "\u0626\u062c"]⟩,
    ⟨0xFC98, 0xFC9B, ["\u0626\u062d", "\u0626\u062e", "\u0626\u0645", "\u0626\u0647"]⟩,
    ⟨0xFC9C, 0xFC9F, ["\u0628\u062c", "\u0628\u062d", "\u0628\u062e", "\u0628\u0645"]⟩,
    ⟨0xFCA0, 0xFCA3, ["\u0628\u0647", "\u062a\u062c", "\u062a\u062d", "\u062a\u062e"]⟩,
    ⟨0xFCA4, 0xFCA7, ["\u062a\u0645", "\u062a\u0647", "\u062b\u0645", "\u062c\u062d"]⟩,
    ⟨0xFCA8, 0xFCAB, ["\u062c\u0645", "\u062d\u062c", "\u062d\u0645", "\u062e\u062c"]⟩,
    ⟨0xFCAC, 0xFCAF, ["\u062e\u0645", "\u0633\u062c", "\u0633\u062d", "\u0633\u062e"]⟩,
    ⟨0xFCB0, 0xFCB3, ["\u0633\u0645", "\u0635\u062d", "\u0635\u062e", "\u0635\u0645"]⟩,
    ⟨0xFCB4, 0xFCB7, ["\u0636\u062c", "\u0636\u062d", "\u0636\u062e", "\u0636\u0645"]⟩,
    ⟨0xFCB8, 0xFCBB, ["\u0637\u062d", "\u0638\u0645", "\u0639\u062c", "\u0639\u0645"]⟩,
    ⟨0xFCBC, 0xFCBF, ["\u063a\u062c", "\u063a\u0645", "\u0641\u062c", "\u0641\u062d"]⟩,
    ⟨0xFCC0, 0xFCC3, ["\u0641\u062e", "\u0641\u0645", "\u0642\u062d", "\u0642\u0645"]⟩,
    ⟨0xFCC4, 0xFCC7, ["\u0643\u062c", "\u0643\u062d", "\u0643\u062e", "\u0643\u0644"]⟩,
    ⟨0xFCC8, 0xFCCB, ["\u0643\u0645", "\u0644\u062c", "\u0644\u062d", "\u0644\u062e"]⟩,
    ⟨0xFCCC, 0xFCCF, ["\u0644\u0645", "\u0644\u0647", "\u0645\u062c", "\u0645\u062d"]⟩,
    ⟨0xFCD0, 0xFCD3, ["\u0645\u062e", "\u0645\u0645", "\u0646\u062c", "\u0646\u062d"]⟩,
    ⟨0xFCD4, 0xFCD7, ["\u0646\u062e", "\u0646\u0645", "\u0646\u0647", "\u0647\u062c"]⟩,
    ⟨0xFCD8, 0xFCDB, ["\u0647\u0645", "\u0647\u0670", "\u064a\u062c", "\u064a\u062d"]⟩,
    ⟨0xFCDC, 0xFCDF, ["\u064a\u062e", "\u064a\u0645", "\u064a\u0647", "\u0626\u0645"]⟩,
    ⟨0xFCE0, 0xFCE3, ["\u0626\u0647", "\u0628\u0645", "\u0628\u0647", "\u062a\u0645"]⟩,
    ⟨0xFCE4, 0xFCE7, ["\u062a\u0647", "\u062b\u0645", "\u062b\u0647", "\u0633\u0645"]⟩,
    ⟨0xFCE8, 0xFCEB, ["\u0633\u0647", "\u0634\u0645", "\u0634\u0647", "\u0643\u0644"]⟩,
    ⟨0xFCEC, 0xFCEF, ["\u0643\u0645", "\u0644\u0645", "\u0646\u0645", "\u0646\u0647"]⟩,
    ⟨0xFCF0, 0xFCF2, ["\u064a\u0645", "\u064a\u0647", "\u0640\u064e\u0651"]⟩,
    ⟨0xFCF3, 0xFCF5, ["\u0640\u064f\u0651", "\u0640\u0650\u0651", "\u0637\u0649"]⟩,
    ⟨0xFCF6, 0xFCF9, ["\u0637\u064a", "\u0639\u0649", "\u0639\u064a", "\u063a\u0649"]⟩,
    ⟨0xFCFA, 0xFCFD, ["\u063a\u064a", "\u0633\u0649", "\u0633\u064a", "\u0634\u0649"]⟩,
    ⟨0xFCFE, 0xFD01, ["\u0634\u064a", "\u062d\u0649", "\u062d\u064a", "\u062c\u0649"]⟩,
    ⟨0xFD02, 0xFD05, ["\u062c\u064a", "\u062e\u0649", "\u062e\u064a", "\u0635\u0649"]⟩,
    ⟨0xFD06, 0xFD09, ["\u0635\u064a", "\u0636\u0649", "\u0636\u064a", "\u0634\u062c"]⟩,
    ⟨0xFD0A, 0xFD0D, ["\u0634\u062d", "\u0634\u062e", "\u0634\u0645", "\u0634\u0631"]⟩,
    ⟨0xFD0E, 0xFD11, ["\u0633\u0631", "\u0635\u0631", "\u0636\u0631", "\u0637\u0649"]⟩,
    ⟨0xFD12, 0xFD15, ["\u0637\u064a", "\u0639\u0649", "\u0639\u064a", "\u063a\u0649"]⟩,
    ⟨0xFD16, 0xFD19, ["\u063a\u064a", "\u0633\u0649", "\u0633\u064a", "\u0634\u0649"]⟩,
    ⟨0xFD1A, 0xFD1D, ["\u0634\u064a", "\u062d\u0649", "\u062d\u064a", "\u062c\u0649"]⟩,
    ⟨0xFD1E, 0xFD21, ["\u062c\u064a", "\u062e\u0649", "\u062e\u064a", "\u0635\u0649"]⟩,
    ⟨0xFD22, 0xFD25, ["\u0635\u064a", "\u0636\u0649", "\u0636\u064a", "\u0634\u062c"]⟩,
    ⟨0xFD26, 0xFD29, ["\u0634\u062d", "\u0634\u062e", "\u0634\u0645", "\u0634\u0631"]⟩,
    ⟨0xFD2A, 0xFD2D, ["\u0633\u0631", "\u0635\u0631", "\u0636\u0631", "\u0634\u062c"]⟩,
    ⟨0xFD2E, 0xFD31, ["\u0634\u062d", "\u0634\u062e", "\u0634\u0645", "\u0633\u0647"]⟩,
    ⟨0xFD32, 0xFD35, ["\u0634\u0647", "\u0637\u0645", "\u0633\u062c", "\u0633\u062d"]⟩,
    ⟨0xFD36, 0xFD39, ["\u0633\u062e", "\u0634\u062c", "\u0634\u062d", "\u0634\u062e"]⟩,
    ⟨0xFD3A, 0xFD3D, ["\u0637\u0645", "\u0638\u0645", "\u0627\u064b", "\u0627\u064b"]⟩,
    ⟨0xFD50, 0xFD52, ["\u062a\u062c\u0645", "\u062a\u062d\u062c", "\u062a\u062d\u062c"]⟩,
    ⟨0xFD53, 0xFD55, ["\u062a\u062d\u0645", "\u062a\u062e\u0645", "\u062a\u0645\u062c"]⟩,
    ⟨0xFD56, 0xFD58, ["\u062a\u0645\u062d", "\u062a\u0645\u062e", "\u062c\u0645\u062d"]⟩,
    ⟨0xFD59, 0xFD5B, ["\u062c\u0645\u062d", "\u062d\u0645\u064a", "\u062d\u0645\u0649"]⟩,
    ⟨0xFD5C, 0xFD5E, ["\u0633\u062d\u062c", "\u0633\u062c\u062d", "\u0633\u062c\u0649"]⟩,
    ⟨0xFD5F, 0xFD61, ["\u0633\u0645\u062d", "\u0633\u0645\u062d", "\u0633\u0645\u062c"]⟩,
    ⟨0xFD62, 0xFD64, ["\u0633\u0645\u0645", "\u0633\u0645\u0645", "\u0635\u062d\u062d"]⟩,
    ⟨0xFD65, 0xFD67, ["\u0635\u062d\u062d", "\u0635\u0645\u0645", "\u0634\u062d\u0645"]⟩,
    ⟨0xFD68, 0xFD6A, ["\u0634\u062d\u0645", "\u0634\u062c\u064a", "\u0634\u0645\u062e"]⟩,
    ⟨0xFD6B, 0xFD6D, ["\u0634\u0645\u062e", "\u0634\u0645\u0645", "\u0634\u0645\u0645"]⟩,
    ⟨0xFD6E, 0xFD70, ["\u0636\u062d\u0649", "\u0636\u062e\u0645", "\u0636\u062e\u0645"]⟩,
    ⟨0xFD71, 0xFD73, ["\u0637\u0645\u062d", "\u0637\u0645\u062d", "\u0637\u0645\u0645"]⟩,
    ⟨0xFD74, 0xFD76, ["\u0637\u0645\u064a", "\u0639\u062c\u0645", "\u0639\u0645\u0645"]⟩,
    ⟨0xFD77, 0xFD79, ["\u0639\u0645\u0645", "\u0639\u0645\u0649", "\u063a\u0645\u0645"]⟩,
    ⟨0xFD7A, 0xFD7C, ["\u063a\u0645\u064a", "\u063a\u0645\u0649", "\u0641\u062e\u0645"]⟩,
    ⟨0xFD7D, 0xFD7F, ["\u0641\u062e\u0645", "\u0642\u0645\u062d", "\u0642\u0645\u0645"]⟩,
    ⟨0xFD80, 0xFD82, ["\u0644\u062d\u0645", "\u0644\u062d\u064a", "\u0644\u062d\u0649"]⟩,
    ⟨0xFD83, 0xFD85, ["\u0644\u062c\u062c", "\u0644\u062c\u062c", "\u0644\u062e\u0645"]⟩,
    ⟨0xFD86, 0xFD88, ["\u0644\u062e\u0645", "\u0644\u0645\u062d", "\u0644\u0645\u062d"]⟩,
    ⟨0xFD89, 0xFD8B, ["\u0645\u062d\u062c", "\u0645\u062d\u0645", "\u0645\u062d\u064a"]⟩,
    ⟨0xFD8C, 0xFD8E, ["\u0645\u062c\u062d", "\u0645\u062c\u0645", "\u0645\u062e\u062c"]⟩,
    ⟨0xFD8F, 0xFD8F, ["\u0645\u062e\u0645"]⟩,
    ⟨0xFD92, 0xFD94, ["\u0645\u062c\u062e", "\u0647\u0645\u062c", "\u0647\u0645\u0645"]⟩,
    ⟨0xFD95, 0xFD97, ["\u0646\u062d\u0645", "\u0646\u062d\u0649", "\u0646\u062c\u0645"]⟩,
    ⟨0xFD98, 0xFD9A, ["\u0646\u062c\u0645", "\u0646\u062c\u0649", "\u0646\u0645\u064a"]⟩,
    ⟨0xFD9B, 0xFD9D, ["\u0646\u0645\u0649", "\u064a\u0645\u0645", "\u064a\u0645\u0645"]⟩,
    ⟨0xFD9E, 0xFDA0, ["\u0628\u062e\u064a", "\u062a\u062c\u064a", "\u062a\u062c\u0649"]⟩,
    ⟨0xFDA1, 0xFDA3, ["\u062a\u062e\u064a", "\u062a\u062e\u0649", "\u062a\u0645\u064a"]⟩,
    ⟨0xFDA4, 0xFDA6, ["\u062a\u0645\u0649", "\u062c\u0645\u064a", "\u062c\u062d\u0649"]⟩,
    ⟨0xFDA7, 0xFDA9, ["\u062c\u0645\u0649", "\u0633\u062e\u0649", "\u0635\u062d\u064a"]⟩,
    ⟨0xFDAA, 0xFDAC, ["\u0634\u062d\u064a", "\u0636\u062d\u064a", "\u0644\u062c\u064a"]⟩,
    ⟨0xFDAD, 0xFDAF, ["\u0644\u0645\u064a", "\u064a\u062d\u064a", "\u064a\u062c\u064a"]⟩,
    ⟨0xFDB0, 0xFDB2, ["\u064a\u0645\u064a", "\u0645\u0645\u064a", "\u0642\u0645\u064a"]⟩,
    ⟨0xFDB3, 0xFDB5, ["\u0646\u062d\u064a", "\u0642\u0645\u062d", "\u0644\u062d\u0645"]⟩,
    ⟨0xFDB6, 0xFDB8, ["\u0639\u0645\u064a", "\u0643\u0645\u064a", "\u0646\u062c\u062d"]⟩,
    ⟨0xFDB9, 0xFDBB, ["\u0645\u062e\u064a", "\u0644\u062c\u0645", "\u0643\u0645\u0645"]⟩,
    ⟨0xFDBC, 0xFDBE, ["\u0644\u062c\u0645", "\u0646\u062c\u062d", "\u062c\u062d\u064a"]⟩,
    ⟨0xFDBF, 0xFDC1, ["\u062d\u062c\u064a", "\u0645\u062c\u064a", "\u0641\u0645\u064a"]⟩,
    ⟨0xFDC2, 0xFDC4, ["\u0628\u062d\u064a", "\u0643\u0645\u0645", "\u0639\u062c\u0645"]⟩,
    ⟨0xFDC5, 0xFDC7, ["\u0635\u0645\u0645", "\u0633\u062e\u064a", "\u0646\u062c\u064a"]⟩,
    ⟨0xFDF0, 0xFDF2, ["\u0635\u0644\u06d2", "\u0642\u0644\u06d2", "\u0627\u0644\u0644\u0647"]⟩,
    ⟨0xFDF3, 0xFDF4, ["\u0627\u0643\u0628\u0631", "\u0645\u062d\u0645\u062f"]⟩,
    ⟨0xFDF5, 0xFDF6, ["\u0635\u0644\u0639\u0645", "\u0631\u0633\u0648\u0644"]⟩,
    ⟨0xFDF7, 0xFDF8, ["\u0639\u0644\u064a\u0647", "\u0648\u0633\u0644\u0645"]⟩,
    ⟨0xFDF9, 0xFDF9, ["\u0635\u0644\u0649"]⟩,
    ⟨0xFDFA, 0xFDFA, ["\u0635\u0644\u0649 \u0627\u0644\u0644\u0647 " ++
      "\u0639\u0644\u064a\u0647 \u0648\u0633\u0644\u0645"]⟩,
    ⟨0xFDFB, 0xFDFC, ["\u062c\u0644 \u062c\u0644\u0627\u0644\u0647", "\u0631\u06cc\u0627\u0644"]⟩,
    ⟨0xFE49, 0xFE4C, [" \u0305", " \u0305", " \u0305", " \u0305"]⟩,
    ⟨0xFE70, 0xFE72, [" \u064b", "\u0640\u064b", " \u064c"]⟩, ⟨0xFE74, 0xFE74, [" \u064d"]⟩,
    ⟨0xFE76, 0xFE7A, [" \u064e", "\u0640\u064e", " \u064f", "\u0640\u064f", " \u0650"]⟩,
    ⟨0xFE7B, 0xFE7F, ["\u0640\u0650", " \u0651", "\u0640\u0651", " \u0652", "\u0640\u0652"]⟩,
    ⟨0xFEF5, 0xFEF8, ["\u0644\u0622", "\u0644\u0622", "\u0644\u0623", "\u0644\u0623"]⟩,
    ⟨0xFEF9, 0xFEFC, ["\u0644\u0625", "\u0644\u0625", "\u0644\u0627", "\u0644\u0627"]⟩,
    ⟨0xFFE3, 0xFFE3, [" \u0304"]⟩,
    ⟨0x1D15E, 0x1D164, ["𝅗𝅥", "𝅘𝅥", "𝅘𝅥𝅮", "𝅘𝅥𝅯", "𝅘𝅥𝅰", "𝅘𝅥𝅱", "𝅘𝅥𝅲"]⟩,
    ⟨0x1D1BB, 0x1D1C0, ["𝆹𝅥", "𝆺𝅥", "𝆹𝅥𝅮", "𝆺𝅥𝅮", "𝆹𝅥𝅯", "𝆺𝅥𝅯"]⟩,
    ⟨0x1F101, 0x1F10A, ["0,", "1,", "2,", "3,", "4,", "5,", "6,", "7,", "8,", "9,"]⟩,
    ⟨0x1F110, 0x1F119, ["(a)", "(b)", "(c)", "(d)", "(e)", "(f)", "(g)", "(h)", "(i)", "(j)"]⟩,
    ⟨0x1F11A, 0x1F123, ["(k)", "(l)", "(m)", "(n)", "(o)", "(p)", "(q)", "(r)", "(s)", "(t)"]⟩,
    ⟨0x1F124, 0x1F12A, ["(u)", "(v)", "(w)", "(x)", "(y)", "(z)", "〔s〕"]⟩,
    ⟨0x1F12D, 0x1F12E, ["cd", "wz"]⟩, ⟨0x1F14A, 0x1F14F, ["hv", "mv", "sd", "ss", "ppv", "wc"]⟩,
    ⟨0x1F16A, 0x1F16C, ["mc", "md", "mr"]⟩, ⟨0x1F190, 0x1F190, ["dj"]⟩,
    ⟨0x1F200, 0x1F201, ["ほか", "ココ"]⟩,
    ⟨0x1F240, 0x1F248, ["〔本〕", "〔三〕", "〔二〕", "〔安〕", "〔点〕", "〔打〕", "〔盗〕", "〔勝〕", "〔敗〕"]⟩ ]

/-- Characters that are dropped. -/
def dropped : List Run :=
  [ ⟨0xAD, 0xAD, 1⟩, ⟨0x34F, 0x34F, 1⟩, ⟨0x115F, 0x1160, 1⟩, ⟨0x17B4, 0x17B5, 1⟩,
    ⟨0x180B, 0x180F, 1⟩, ⟨0x200B, 0x200B, 1⟩, ⟨0x2060, 0x2064, 1⟩, ⟨0x206A, 0x206F, 1⟩,
    ⟨0x3164, 0x3164, 1⟩, ⟨0xFE00, 0xFE0F, 1⟩, ⟨0xFEFF, 0xFEFF, 1⟩, ⟨0xFFA0, 0xFFA0, 1⟩,
    ⟨0x1BCA0, 0x1BCA3, 1⟩, ⟨0x1D173, 0x1D17A, 1⟩, ⟨0xE0100, 0xE01EF, 1⟩ ]

/-- Printable characters that no domain name holds. -/
def refused : List Run :=
  [ ⟨0x2024, 0x2026, 1⟩, ⟨0x2488, 0x249B, 1⟩, ⟨0x2FF0, 0x2FFF, 1⟩, ⟨0x31EF, 0x31EF, 1⟩,
    ⟨0x33C2, 0x33C2, 1⟩, ⟨0x33C7, 0x33C7, 1⟩, ⟨0x33D8, 0x33D8, 1⟩, ⟨0xFE12, 0xFE12, 1⟩,
    ⟨0xFE19, 0xFE19, 1⟩, ⟨0xFE30, 0xFE30, 1⟩, ⟨0xFE52, 0xFE52, 1⟩, ⟨0xFFFC, 0xFFFD, 1⟩,
    ⟨0x1F100, 0x1F100, 1⟩ ]

end UrlQuery.Domain
