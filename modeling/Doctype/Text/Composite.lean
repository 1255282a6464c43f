/-! Characters that stand for a character with another one behind it. -/
namespace Doctype.Text

/-- The characters that stand behind, each with the ones it joins and what comes of it: `AÀ` says
that the mark turns the first character into the second. -/
def compositeWords : List (Nat × String) := [
  (0x300, "AÀ EÈ IÌ NǸ OÒ UÙ WẀ YỲ aà eè iì nǹ oò uù wẁ yỳ ¨῭ ÂẦ ÊỀ ÔỒ ÜǛ âầ êề ôồ üǜ ĂẰ ăằ"),
  (0x300, "ĒḔ ēḕ ŌṐ ōṑ ƠỜ ơờ ƯỪ ưừ ΑᾺ ΕῈ ΗῊ ΙῚ ΟῸ ΥῪ ΩῺ αὰ εὲ ηὴ ιὶ οὸ υὺ ωὼ ϊῒ ϋῢ ЕЀ ИЍ еѐ"),
  (0x300, "иѝ ἀἂ ἁἃ ἈἊ ἉἋ ἐἒ ἑἓ ἘἚ ἙἛ ἠἢ ἡἣ ἨἪ ἩἫ ἰἲ ἱἳ ἸἺ ἹἻ ὀὂ ὁὃ ὈὊ ὉὋ ὐὒ ὑὓ ὙὛ ὠὢ ὡὣ ὨὪ"),
  (0x300, "ὩὫ ᾿῍ ῾῝"),
  (0x301, "AÁ CĆ EÉ GǴ IÍ KḰ LĹ MḾ NŃ OÓ PṔ RŔ SŚ UÚ WẂ YÝ ZŹ aá cć eé gǵ ií kḱ lĺ mḿ nń oó"),
  (0x301, "pṕ rŕ sś uú wẃ yý zź ¨΅ ÂẤ ÅǺ ÆǼ ÇḈ ÊẾ ÏḮ ÔỐ ÕṌ ØǾ ÜǗ âấ åǻ æǽ çḉ êế ïḯ ôố õṍ øǿ"),
  (0x301, "üǘ ĂẮ ăắ ĒḖ ēḗ ŌṒ ōṓ ŨṸ ũṹ ƠỚ ơớ ƯỨ ưứ ΑΆ ΕΈ ΗΉ ΙΊ ΟΌ ΥΎ ΩΏ αά εέ ηή ιί οό υύ ωώ"),
  (0x301, "ϊΐ ϋΰ ϒϓ ГЃ КЌ гѓ кќ ἀἄ ἁἅ ἈἌ ἉἍ ἐἔ ἑἕ ἘἜ ἙἝ ἠἤ ἡἥ ἨἬ ἩἭ ἰἴ ἱἵ ἸἼ ἹἽ ὀὄ ὁὅ ὈὌ ὉὍ"),
  (0x301, "ὐὔ ὑὕ ὙὝ ὠὤ ὡὥ ὨὬ ὩὭ ᾿῎ ῾῞"),
  (0x302, "AÂ CĈ EÊ GĜ HĤ IÎ JĴ OÔ SŜ UÛ WŴ YŶ ZẐ aâ cĉ eê gĝ hĥ iî jĵ oô sŝ uû wŵ yŷ zẑ ẠẬ"),
  (0x302, "ạậ ẸỆ ẹệ ỌỘ ọộ"),
  (0x303, "AÃ EẼ IĨ NÑ OÕ UŨ VṼ YỸ aã eẽ iĩ nñ oõ uũ vṽ yỹ ÂẪ ÊỄ ÔỖ âẫ êễ ôỗ ĂẴ ăẵ ƠỠ ơỡ ƯỮ"),
  (0x303, "ưữ"),
  (0x304, "AĀ EĒ GḠ IĪ OŌ UŪ YȲ aā eē gḡ iī oō uū yȳ ÄǞ ÆǢ ÕȬ ÖȪ ÜǕ äǟ æǣ õȭ öȫ üǖ ǪǬ ǫǭ ȦǠ"),
  (0x304, "ȧǡ ȮȰ ȯȱ ΑᾹ ΙῙ ΥῩ αᾱ ιῑ υῡ ИӢ УӮ иӣ уӯ ḶḸ ḷḹ ṚṜ ṛṝ"),
  (0x306, "AĂ EĔ GĞ IĬ OŎ UŬ aă eĕ gğ iĭ oŏ uŭ ȨḜ ȩḝ ΑᾸ ΙῘ ΥῨ αᾰ ιῐ υῠ АӐ ЕӖ ЖӁ ИЙ УЎ аӑ еӗ"),
  (0x306, "жӂ ий уў ẠẶ ạặ"),
  (0x307, "AȦ BḂ CĊ DḊ EĖ FḞ GĠ HḢ Iİ MṀ NṄ OȮ PṖ RṘ SṠ TṪ WẆ XẊ YẎ ZŻ aȧ bḃ cċ dḋ eė fḟ gġ"),
  (0x307, "hḣ mṁ nṅ oȯ pṗ rṙ sṡ tṫ wẇ xẋ yẏ zż ŚṤ śṥ ŠṦ šṧ ſẛ ṢṨ ṣṩ 𐗒𐗉 𐗚𐗤"),
  (0x308, "AÄ EË HḦ IÏ OÖ UÜ WẄ XẌ YŸ aä eë hḧ iï oö tẗ uü wẅ xẍ yÿ ÕṎ õṏ ŪṺ ūṻ ΙΪ ΥΫ ιϊ υϋ"),
  (0x308, "ϒϔ ІЇ АӒ ЕЁ ЖӜ ЗӞ ИӤ ОӦ УӰ ЧӴ ЫӸ ЭӬ аӓ её жӝ зӟ иӥ оӧ уӱ чӵ ыӹ эӭ ії ӘӚ әӛ ӨӪ өӫ"),
  (0x309, "AẢ EẺ IỈ OỎ UỦ YỶ aả eẻ iỉ oỏ uủ yỷ ÂẨ ÊỂ ÔỔ âẩ êể ôổ ĂẲ ăẳ ƠỞ ơở ƯỬ ưử"),
  (0x30A, "AÅ UŮ aå uů wẘ yẙ"), (0x30B, "OŐ UŰ oő uű УӲ уӳ"),
  (0x30C, "AǍ CČ DĎ EĚ GǦ HȞ IǏ KǨ LĽ NŇ OǑ RŘ SŠ TŤ UǓ ZŽ aǎ cč dď eě gǧ hȟ iǐ jǰ kǩ lľ nň"),
  (0x30C, "oǒ rř sš tť uǔ zž ÜǙ üǚ ƷǮ ʒǯ"), (0x30F, "AȀ EȄ IȈ OȌ RȐ UȔ aȁ eȅ iȉ oȍ rȑ uȕ ѴѶ ѵѷ"),
  (0x311, "AȂ EȆ IȊ OȎ RȒ UȖ aȃ eȇ iȋ oȏ rȓ uȗ"),
  (0x313, "ΑἈ ΕἘ ΗἨ ΙἸ ΟὈ ΩὨ αἀ εἐ ηἠ ιἰ οὀ ρῤ υὐ ωὠ"),
  (0x314, "ΑἉ ΕἙ ΗἩ ΙἹ ΟὉ ΡῬ ΥὙ ΩὩ αἁ εἑ ηἡ ιἱ οὁ ρῥ υὑ ωὡ"), (0x31B, "OƠ UƯ oơ uư"),
  (0x323, "AẠ BḄ DḌ EẸ HḤ IỊ KḲ LḶ MṂ NṆ OỌ RṚ SṢ TṬ UỤ VṾ WẈ YỴ ZẒ aạ bḅ dḍ eẹ hḥ iị kḳ lḷ"),
  (0x323, "mṃ nṇ oọ rṛ sṣ tṭ uụ vṿ wẉ yỵ zẓ ƠỢ ơợ ƯỰ ưự"), (0x324, "UṲ uṳ"), (0x325, "AḀ aḁ"),
  (0x326, "SȘ TȚ sș tț"),
  (0x327, "CÇ DḐ EȨ GĢ HḨ KĶ LĻ NŅ RŖ SŞ TŢ cç dḑ eȩ gģ hḩ kķ lļ nņ rŗ sş tţ"),
  (0x328, "AĄ EĘ IĮ OǪ UŲ aą eę iį oǫ uų"), (0x32D, "DḒ EḘ LḼ NṊ TṰ UṶ dḓ eḙ lḽ nṋ tṱ uṷ"),
  (0x32E, "HḪ hḫ"), (0x330, "EḚ IḬ UṴ eḛ iḭ uṵ"),
  (0x331, "BḆ DḎ KḴ LḺ NṈ RṞ TṮ ZẔ bḇ dḏ hẖ kḵ lḻ nṉ rṟ tṯ zẕ"),
  (0x338, "<≮ =≠ >≯ ←↚ →↛ ↔↮ ⇐⇍ ⇒⇏ ⇔⇎ ∃∄ ∈∉ ∋∌ ∣∤ ∥∦ ∼≁ ≃≄ ≅≇ ≈≉ ≍≭ ≡≢ ≤≰ ≥≱ ≲≴ ≳≵ ≶≸ ≷≹ ≺⊀"),
  (0x338, "≻⊁ ≼⋠ ≽⋡ ⊂⊄ ⊃⊅ ⊆⊈ ⊇⊉ ⊑⋢ ⊒⋣ ⊢⊬ ⊨⊭ ⊩⊮ ⊫⊯ ⊲⋪ ⊳⋫ ⊴⋬ ⊵⋭"),
  (0x342, "¨῁ αᾶ ηῆ ιῖ υῦ ωῶ ϊῗ ϋῧ ἀἆ ἁἇ ἈἎ ἉἏ ἠἦ ἡἧ ἨἮ ἩἯ ἰἶ ἱἷ ἸἾ ἹἿ ὐὖ ὑὗ ὙὟ ὠὦ ὡὧ ὨὮ ὩὯ"),
  (0x342, "᾿῏ ῾῟"),
  (0x345, "Αᾼ Ηῌ Ωῼ άᾴ ήῄ αᾳ ηῃ ωῳ ώῴ ἀᾀ ἁᾁ ἂᾂ ἃᾃ ἄᾄ ἅᾅ ἆᾆ ἇᾇ Ἀᾈ Ἁᾉ Ἂᾊ Ἃᾋ Ἄᾌ Ἅᾍ Ἆᾎ Ἇᾏ ἠᾐ ἡᾑ"),
  (0x345, "ἢᾒ ἣᾓ ἤᾔ ἥᾕ ἦᾖ ἧᾗ Ἠᾘ Ἡᾙ Ἢᾚ Ἣᾛ Ἤᾜ Ἥᾝ Ἦᾞ Ἧᾟ ὠᾠ ὡᾡ ὢᾢ ὣᾣ ὤᾤ ὥᾥ ὦᾦ ὧᾧ Ὠᾨ Ὡᾩ Ὢᾪ Ὣᾫ Ὤᾬ"),
  (0x345, "Ὥᾭ Ὦᾮ Ὧᾯ ὰᾲ ὴῂ ὼῲ ᾶᾷ ῆῇ ῶῷ"), (0x653, "اآ"), (0x654, "اأ وؤ يئ ہۂ ےۓ ەۀ"), (0x655, "اإ"),
  (0x93C, "नऩ रऱ ळऴ"), (0x9BE, "\u09c7ো"), (0x9D7, "\u09c7ৌ"), (0xB3E, "\u0b47ୋ"),
  (0xB56, "\u0b47ୈ"), (0xB57, "\u0b47ୌ"), (0xBBE, "\u0bc6ொ \u0bc7ோ"), (0xBD7, "ஒஔ \u0bc6ௌ"),
  (0xC56, "\u0c46ై"), (0xCC2, "\u0cc6ೊ"), (0xCD5, "\u0cbfೀ \u0cc6ೇ \u0ccaೋ"), (0xCD6, "\u0cc6ೈ"),
  (0xD3E, "\u0d46ൊ \u0d47ോ"), (0xD57, "\u0d46ൌ"), (0xDCA, "\u0dd9ේ \u0ddcෝ"), (0xDCF, "\u0dd9ො"),
  (0xDDF, "\u0dd9ෞ"), (0x102E, "ဥဦ"),
  (0x1B35, "ᬅᬆ ᬇᬈ ᬉᬊ ᬋᬌ ᬍᬎ ᬑᬒ \u1b3aᬻ \u1b3cᬽ \u1b3eᭀ \u1b3fᭁ \u1b42ᭃ"),
  (0x3099, "うゔ かが きぎ くぐ けげ こご さざ しじ すず せぜ そぞ ただ ちぢ つづ てで とど はば ひび ふぶ へべ ほぼ ゝゞ ウヴ カガ キギ クグ ケゲ"),
  (0x3099, "コゴ サザ シジ スズ セゼ ソゾ タダ チヂ ツヅ テデ トド ハバ ヒビ フブ ヘベ ホボ ワヷ ヰヸ ヱヹ ヲヺ ヽヾ"),
  (0x309A, "はぱ ひぴ ふぷ へぺ ほぽ ハパ ヒピ フプ ヘペ ホポ"), (0x110BA, "𑂙𑂚 𑂛𑂜 𑂥𑂫"), (0x11127, "𑄱𑄮 𑄲𑄯"),
  (0x1133E, "𑍇𑍋"), (0x11357, "𑍇𑍌"), (0x113B8, "𑏅𑎸"), (0x113BB, "𑎄𑎅"), (0x113C2, "𑎋𑎎 𑏅𑏂"),
  (0x113C9, "𑎂𑎃 𑎐𑎑 𑏅𑏉"), (0x114B0, "𑒹𑒼"), (0x114BA, "𑒹𑒻"), (0x114BD, "𑒹𑒾"), (0x115AF, "𑖸𑖺 𑖹𑖻"),
  (0x11930, "𑤵𑤸"), (0x1611E, "𖄡𖄞"), (0x1611F, "𖄦 𖄡𖄦 𖄢𖄧 𖄩𖄤"), (0x16120, "𖄨 𖄡𖄨"), (0x16129, "𖄡𖄩"),
  (0x16D67, "𖵣𖵩 𖵨𖵧 𖵩𖵪")]

/-- A composite with its two parts. -/
structure Composite where
  first : Char
  second : Char
  whole : Char
deriving DecidableEq, Repr

/-- The composites of a list of words. -/
def Composite.ofWords (second : Char) : List Char → List Composite
  | first :: whole :: ' ' :: rest => ⟨first, second, whole⟩ :: ofWords second rest
  | [first, whole] => [⟨first, second, whole⟩]
  | _ => []

/-- All composites but the syllables of the Korean script. -/
def composites : List Composite :=
  compositeWords.flatMap fun entry => Composite.ofWords (.ofNat entry.1) entry.2.toList

/-- A Korean syllable is a consonant and a vowel, or a syllable of these two and a final. The
syllables lie in this order, 28 for each consonant and vowel. -/
def syllable? (first second : Char) : Option Char :=
  let a := first.toNat
  let b := second.toNat
  if 0x1100 ≤ a && a < 0x1113 && 0x1161 ≤ b && b < 0x1176 then
    some (.ofNat (0xAC00 + ((a - 0x1100) * 21 + (b - 0x1161)) * 28))
  else if 0xAC00 ≤ a && a < 0xD7A4 && (a - 0xAC00) % 28 == 0 && 0x11A8 ≤ b && b < 0x11C3 then
    some (.ofNat (a + (b - 0x11A7)))
  else none

/-- The two parts of a Korean syllable. -/
def syllableParts? (c : Char) : Option (Char × Char) :=
  let n := c.toNat - 0xAC00
  if c.toNat < 0xAC00 || 0xD7A4 ≤ c.toNat then none
  else if n % 28 == 0 then some (.ofNat (0x1100 + n / 588), .ofNat (0x1161 + n / 28 % 21))
  else some (.ofNat (c.toNat - n % 28), .ofNat (0x11A7 + n % 28))

/-- The character that two characters make. -/
def combine? (first second : Char) : Option Char :=
  (syllable? first second).or
    ((composites.find? fun e => e.first == first && e.second == second).map Composite.whole)

/-- The two parts of a character. -/
def parts? (c : Char) : Option (Char × Char) :=
  (syllableParts? c).or
    ((composites.find? (·.whole == c)).map fun e => (e.first, e.second))

end Doctype.Text
