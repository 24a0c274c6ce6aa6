import MockProvider.Unicode.Script.FromAToI
import MockProvider.Unicode.Script.FromIToO
import MockProvider.Unicode.Script.FromOToZ

/-!
# Scripts

Most code points belong to one script. Some are used with further scripts as well; the extended
script of such a code point is every script that it is used with, and no longer the script of
common or inherited characters.
-/

namespace MockProvider.Unicode.Script

/-- A script: its names, written in lower case without underscores, the code points that belong to
    it, and the further ones that are used with it. -/
structure Entry where
  names : List String
  own : Ranges
  shared : Ranges

/-- Every script. -/
def entries : List Entry := [
  ⟨["adlam", "adlm"], adlam, [(0x61F, 0x61F), (0x640, 0x640), (0x204F, 0x204F), (0x2E41, 0x2E41)]⟩,
  ⟨["ahom"], ahom, []⟩,
  ⟨["anatolianhieroglyphs", "hluw"], anatolianHieroglyphs, []⟩,
  ⟨["arab", "arabic"], arabic, [
      (0x60C, 0x60C), (0x61B, 0x61B), (0x61F, 0x61F), (0x640, 0x640), (0x64B, 0x655),
      (0x670, 0x670), (0x204F, 0x204F), (0x2E41, 0x2E41), (0xFD3E, 0xFD3F), (0x102E0, 0x102FB)]⟩,
  ⟨["armenian", "armn"], armenian, [(0x308, 0x308)]⟩,
  ⟨["avestan", "avst"], avestan, [(0xB7, 0xB7), (0x2E30, 0x2E31)]⟩,
  ⟨["bali", "balinese"], balinese, []⟩,
  ⟨["bamu", "bamum"], bamum, []⟩,
  ⟨["bass", "bassavah"], bassaVah, []⟩,
  ⟨["batak", "batk"], batak, []⟩,
  ⟨["beng", "bengali"], bengali, [
      (0x2BC, 0x2BC), (0x951, 0x952), (0x964, 0x965), (0x1CD0, 0x1CD0), (0x1CD2, 0x1CD2),
      (0x1CD5, 0x1CD6), (0x1CD8, 0x1CD8), (0x1CE1, 0x1CE1), (0x1CEA, 0x1CEA), (0x1CED, 0x1CED),
      (0x1CF2, 0x1CF2), (0x1CF5, 0x1CF7), (0xA8F1, 0xA8F1)]⟩,
  ⟨["berf", "beriaerfe"], beriaErfe, []⟩,
  ⟨["bhaiksuki", "bhks"], bhaiksuki, []⟩,
  ⟨["bopo", "bopomofo"], bopomofo, [
      (0x2C7, 0x2C7), (0x2C9, 0x2CB), (0x2D9, 0x2D9), (0x3001, 0x3003), (0x3008, 0x3011),
      (0x3013, 0x301F), (0x302A, 0x302D), (0x3030, 0x3030), (0x3037, 0x3037), (0x30FB, 0x30FB),
      (0xFE45, 0xFE46), (0xFF61, 0xFF65)]⟩,
  ⟨["brah", "brahmi"], brahmi, []⟩,
  ⟨["brai", "braille"], braille, []⟩,
  ⟨["bugi", "buginese"], buginese, [(0xA9CF, 0xA9CF)]⟩,
  ⟨["buhd", "buhid"], buhid, [(0x1735, 0x1736)]⟩,
  ⟨["canadianaboriginal", "cans"], canadianAboriginal, []⟩,
  ⟨["cari", "carian"], carian, [
      (0xB7, 0xB7), (0x205A, 0x205A), (0x205D, 0x205D), (0x2E31, 0x2E31)]⟩,
  ⟨["aghb", "caucasianalbanian"], caucasianAlbanian, [
      (0x304, 0x304), (0x331, 0x331), (0x35E, 0x35E)]⟩,
  ⟨["cakm", "chakma"], chakma, [(0x9E6, 0x9EF), (0x1040, 0x1049)]⟩,
  ⟨["cham"], cham, []⟩,
  ⟨["cher", "cherokee"], cherokee, [
      (0x300, 0x302), (0x304, 0x304), (0x30B, 0x30C), (0x323, 0x324), (0x330, 0x331)]⟩,
  ⟨["chorasmian", "chrs"], chorasmian, []⟩,
  ⟨["common", "zyyy"], commonScript, []⟩,
  ⟨["copt", "coptic", "qaac"], coptic, [
      (0xB7, 0xB7), (0x300, 0x300), (0x304, 0x305), (0x307, 0x307), (0x374, 0x375),
      (0x2E17, 0x2E17), (0x102E0, 0x102FB)]⟩,
  ⟨["cuneiform", "xsux"], cuneiform, []⟩,
  ⟨["cprt", "cypriot"], cypriot, [(0x10100, 0x10102), (0x10107, 0x10133), (0x10137, 0x1013F)]⟩,
  ⟨["cpmn", "cyprominoan"], cyproMinoan, [(0x10100, 0x10101)]⟩,
  ⟨["cyrillic", "cyrl"], cyrillic, [
      (0x2BC, 0x2BC), (0x300, 0x302), (0x304, 0x304), (0x306, 0x306), (0x308, 0x308),
      (0x30B, 0x30B), (0x311, 0x311), (0x485, 0x486), (0x1DF8, 0x1DF8), (0x2E43, 0x2E43)]⟩,
  ⟨["deseret", "dsrt"], deseret, []⟩,
  ⟨["deva", "devanagari"], devanagari, [
      (0x2BC, 0x2BC), (0x951, 0x952), (0x964, 0x965), (0x1CD0, 0x1CF6), (0x1CF8, 0x1CF9),
      (0x20F0, 0x20F0), (0xA830, 0xA839)]⟩,
  ⟨["diak", "divesakuru"], divesAkuru, []⟩,
  ⟨["dogr", "dogra"], dogra, [(0x964, 0x96F), (0xA830, 0xA839)]⟩,
  ⟨["dupl", "duployan"], duployan, [
      (0xB7, 0xB7), (0x307, 0x308), (0x30A, 0x30A), (0x323, 0x324), (0x2E3C, 0x2E3C),
      (0x1BCA0, 0x1BCA3)]⟩,
  ⟨["egyp", "egyptianhieroglyphs"], egyptianHieroglyphs, []⟩,
  ⟨["elba", "elbasan"], elbasan, [(0xB7, 0xB7), (0x305, 0x305)]⟩,
  ⟨["elym", "elymaic"], elymaic, []⟩,
  ⟨["ethi", "ethiopic"], ethiopic, [(0x30E, 0x30E)]⟩,
  ⟨["gara", "garay"], garay, [(0x60C, 0x60C), (0x61B, 0x61B), (0x61F, 0x61F)]⟩,
  ⟨["geor", "georgian"], georgian, [
      (0xB7, 0xB7), (0x589, 0x589), (0x10FB, 0x10FB), (0x205A, 0x205A), (0x2E31, 0x2E31)]⟩,
  ⟨["glag", "glagolitic"], glagolitic, [
      (0xB7, 0xB7), (0x303, 0x303), (0x305, 0x305), (0x484, 0x484), (0x487, 0x487),
      (0x589, 0x589), (0x10FB, 0x10FB), (0x205A, 0x205A), (0x2E43, 0x2E43), (0xA66F, 0xA66F)]⟩,
  ⟨["goth", "gothic"], gothic, [(0xB7, 0xB7), (0x304, 0x305), (0x308, 0x308), (0x331, 0x331)]⟩,
  ⟨["gran", "grantha"], grantha, [
      (0x951, 0x952), (0x964, 0x965), (0xBE6, 0xBF3), (0x1CD0, 0x1CD0), (0x1CD2, 0x1CD3),
      (0x1CF2, 0x1CF4), (0x1CF8, 0x1CF9), (0x20F0, 0x20F0), (0x1133B, 0x1133B),
      (0x11FD0, 0x11FD1), (0x11FD3, 0x11FD3)]⟩,
  ⟨["greek", "grek"], greek, [
      (0xB7, 0xB7), (0x300, 0x301), (0x304, 0x304), (0x306, 0x306), (0x308, 0x308),
      (0x313, 0x313), (0x342, 0x342), (0x345, 0x345), (0x374, 0x374), (0x1DC0, 0x1DC1),
      (0x205D, 0x205D)]⟩,
  ⟨["gujarati", "gujr"], gujarati, [(0x951, 0x952), (0x964, 0x965), (0xA830, 0xA839)]⟩,
  ⟨["gong", "gunjalagondi"], gunjalaGondi, [(0xB7, 0xB7), (0x964, 0x965)]⟩,
  ⟨["gurmukhi", "guru"], gurmukhi, [(0x951, 0x952), (0x964, 0x965), (0xA830, 0xA839)]⟩,
  ⟨["gukh", "gurungkhema"], gurungKhema, [(0x965, 0x965)]⟩,
  ⟨["han", "hani"], han, [
      (0xB7, 0xB7), (0x2FF0, 0x2FFF), (0x3001, 0x3003), (0x3006, 0x3006), (0x3008, 0x3011),
      (0x3013, 0x301F), (0x302A, 0x302D), (0x3030, 0x3030), (0x3037, 0x3037), (0x303C, 0x303F),
      (0x30FB, 0x30FB), (0x3190, 0x319F), (0x31C0, 0x31E5), (0x31EF, 0x31EF), (0x3220, 0x3247),
      (0x3280, 0x32B0), (0x32C0, 0x32CB), (0x32FF, 0x32FF), (0x3358, 0x3370), (0x337B, 0x337F),
      (0x33E0, 0x33FE), (0xA700, 0xA707), (0xFE45, 0xFE46), (0xFF61, 0xFF65), (0x1D360, 0x1D371),
      (0x1F250, 0x1F251)]⟩,
  ⟨["hang", "hangul"], hangul, [
      (0x3001, 0x3003), (0x3008, 0x3011), (0x3013, 0x301F), (0x3030, 0x3030), (0x3037, 0x3037),
      (0x30FB, 0x30FB), (0xFE45, 0xFE46), (0xFF61, 0xFF65)]⟩,
  ⟨["hanifirohingya", "rohg"], hanifiRohingya, [
      (0x60C, 0x60C), (0x61B, 0x61B), (0x61F, 0x61F), (0x640, 0x640), (0x6D4, 0x6D4)]⟩,
  ⟨["hano", "hanunoo"], hanunoo, [(0x1735, 0x1736)]⟩,
  ⟨["hatr", "hatran"], hatran, []⟩,
  ⟨["hebr", "hebrew"], hebrew, [(0x307, 0x308)]⟩,
  ⟨["hira", "hiragana"], hiragana, [
      (0x3001, 0x3003), (0x3008, 0x3011), (0x3013, 0x301F), (0x3030, 0x3035), (0x3037, 0x3037),
      (0x303C, 0x303D), (0x3099, 0x309C), (0x30A0, 0x30A0), (0x30FB, 0x30FC), (0xFE45, 0xFE46),
      (0xFF61, 0xFF65), (0xFF70, 0xFF70), (0xFF9E, 0xFF9F)]⟩,
  ⟨["armi", "imperialaramaic"], imperialAramaic, []⟩,
  ⟨["inherited", "qaai", "zinh"], inheritedScript, []⟩,
  ⟨["inscriptionalpahlavi", "phli"], inscriptionalPahlavi, []⟩,
  ⟨["inscriptionalparthian", "prti"], inscriptionalParthian, []⟩,
  ⟨["java", "javanese"], javanese, [(0xA9CF, 0xA9CF)]⟩,
  ⟨["kaithi", "kthi"], kaithi, [(0x966, 0x96F), (0x2E31, 0x2E31), (0xA830, 0xA839)]⟩,
  ⟨["kannada", "knda"], kannada, [
      (0x951, 0x952), (0x964, 0x965), (0x1CD0, 0x1CD0), (0x1CD2, 0x1CD3), (0x1CDA, 0x1CDA),
      (0x1CF2, 0x1CF2), (0x1CF4, 0x1CF4), (0xA830, 0xA835)]⟩,
  ⟨["kana", "katakana"], katakana, [
      (0x305, 0x305), (0x323, 0x323), (0x3001, 0x3003), (0x3008, 0x3011), (0x3013, 0x301F),
      (0x3030, 0x3035), (0x3037, 0x3037), (0x303C, 0x303D), (0x3099, 0x309C), (0x30A0, 0x30A0),
      (0x30FB, 0x30FC), (0xFE45, 0xFE46), (0xFF61, 0xFF65), (0xFF70, 0xFF70), (0xFF9E, 0xFF9F)]⟩,
  ⟨["kawi"], kawi, []⟩,
  ⟨["kali", "kayahli"], kayahLi, [(0xA92E, 0xA92E)]⟩,
  ⟨["khar", "kharoshthi"], kharoshthi, []⟩,
  ⟨["khitansmallscript", "kits"], khitanSmallScript, []⟩,
  ⟨["khmer", "khmr"], khmer, []⟩,
  ⟨["khoj", "khojki"], khojki, [(0xAE6, 0xAEF), (0xA830, 0xA839)]⟩,
  ⟨["khudawadi", "sind"], khudawadi, [(0x964, 0x965), (0xA830, 0xA839)]⟩,
  ⟨["kiratrai", "krai"], kiratRai, []⟩,
  ⟨["lao", "laoo"], lao, []⟩,
  ⟨["latin", "latn"], latin, [
      (0xB7, 0xB7), (0x2BC, 0x2BC), (0x2C7, 0x2C7), (0x2C9, 0x2CB), (0x2CD, 0x2CD),
      (0x2D7, 0x2D7), (0x2D9, 0x2D9), (0x300, 0x30E), (0x310, 0x311), (0x313, 0x313),
      (0x323, 0x325), (0x32D, 0x32E), (0x330, 0x331), (0x358, 0x358), (0x35E, 0x35E),
      (0x363, 0x36F), (0x485, 0x486), (0x951, 0x952), (0x10FB, 0x10FB), (0x1DF8, 0x1DF8),
      (0x202F, 0x202F), (0x20F0, 0x20F0), (0x2E17, 0x2E17), (0xA700, 0xA707), (0xA92E, 0xA92E)]⟩,
  ⟨["lepc", "lepcha"], lepcha, []⟩,
  ⟨["limb", "limbu"], limbu, [(0x965, 0x965)]⟩,
  ⟨["lina", "lineara"], linearA, [(0x10107, 0x10133)]⟩,
  ⟨["linb", "linearb"], linearB, [(0x10100, 0x10102), (0x10107, 0x10133), (0x10137, 0x1013F)]⟩,
  ⟨["lisu"], lisu, [(0x2BC, 0x2BC), (0x2CD, 0x2CD), (0x300A, 0x300B)]⟩,
  ⟨["lyci", "lycian"], lycian, [(0x205A, 0x205A)]⟩,
  ⟨["lydi", "lydian"], lydian, [(0xB7, 0xB7), (0x2E31, 0x2E31)]⟩,
  ⟨["mahajani", "mahj"], mahajani, [(0xB7, 0xB7), (0x964, 0x96F), (0xA830, 0xA839)]⟩,
  ⟨["maka", "makasar"], makasar, []⟩,
  ⟨["malayalam", "mlym"], malayalam, [
      (0x951, 0x952), (0x964, 0x965), (0x1CDA, 0x1CDA), (0x1CF2, 0x1CF2), (0xA830, 0xA832)]⟩,
  ⟨["mand", "mandaic"], mandaic, [(0x640, 0x640)]⟩,
  ⟨["mani", "manichaean"], manichaean, [(0x640, 0x640)]⟩,
  ⟨["marc", "marchen"], marchen, []⟩,
  ⟨["gonm", "masaramgondi"], masaramGondi, [(0x964, 0x965)]⟩,
  ⟨["medefaidrin", "medf"], medefaidrin, []⟩,
  ⟨["meeteimayek", "mtei"], meeteiMayek, []⟩,
  ⟨["mend", "mendekikakui"], mendeKikakui, []⟩,
  ⟨["merc", "meroiticcursive"], meroiticCursive, []⟩,
  ⟨["mero", "meroitichieroglyphs"], meroiticHieroglyphs, [(0x205D, 0x205D)]⟩,
  ⟨["miao", "plrd"], miao, []⟩,
  ⟨["modi"], modi, [(0xA830, 0xA839)]⟩,
  ⟨["mong", "mongolian"], mongolian, [
      (0x1802, 0x1803), (0x1805, 0x1805), (0x202F, 0x202F), (0x3001, 0x3002), (0x3008, 0x300B)]⟩,
  ⟨["mro", "mroo"], mro, []⟩,
  ⟨["mult", "multani"], multani, [(0xA66, 0xA6F)]⟩,
  ⟨["myanmar", "mymr"], myanmar, [(0xA92E, 0xA92E)]⟩,
  ⟨["nabataean", "nbat"], nabataean, []⟩,
  ⟨["nagm", "nagmundari"], nagMundari, []⟩,
  ⟨["nand", "nandinagari"], nandinagari, [
      (0x951, 0x951), (0x964, 0x965), (0xCE6, 0xCEF), (0x1CE9, 0x1CE9), (0x1CF2, 0x1CF2),
      (0x1CFA, 0x1CFA), (0xA830, 0xA835)]⟩,
  ⟨["newtailue", "talu"], newTaiLue, []⟩,
  ⟨["newa"], newa, [
      (0x951, 0x952), (0x1CD5, 0x1CD5), (0x1CD7, 0x1CD8), (0x1CE2, 0x1CE2), (0x1CE9, 0x1CE9),
      (0x1CEB, 0x1CEB), (0x1CED, 0x1CED)]⟩,
  ⟨["nko", "nkoo"], nko, [(0x60C, 0x60C), (0x61B, 0x61B), (0x61F, 0x61F), (0xFD3E, 0xFD3F)]⟩,
  ⟨["nshu", "nushu"], nushu, []⟩,
  ⟨["hmnp", "nyiakengpuachuehmong"], nyiakengPuachueHmong, []⟩,
  ⟨["ogam", "ogham"], ogham, []⟩,
  ⟨["olchiki", "olck"], olChiki, []⟩,
  ⟨["olonal", "onao"], olOnal, [(0x964, 0x965)]⟩,
  ⟨["hung", "oldhungarian"], oldHungarian, [
      (0x205A, 0x205A), (0x205D, 0x205D), (0x2E31, 0x2E31), (0x2E41, 0x2E41)]⟩,
  ⟨["ital", "olditalic"], oldItalic, []⟩,
  ⟨["narb", "oldnortharabian"], oldNorthArabian, []⟩,
  ⟨["oldpermic", "perm"], oldPermic, [
      (0xB7, 0xB7), (0x300, 0x300), (0x306, 0x308), (0x313, 0x313), (0x483, 0x483)]⟩,
  ⟨["oldpersian", "xpeo"], oldPersian, []⟩,
  ⟨["oldsogdian", "sogo"], oldSogdian, []⟩,
  ⟨["oldsoutharabian", "sarb"], oldSouthArabian, []⟩,
  ⟨["oldturkic", "orkh"], oldTurkic, [(0x205A, 0x205A), (0x2E30, 0x2E30)]⟩,
  ⟨["olduyghur", "ougr"], oldUyghur, [(0x640, 0x640), (0x10AF2, 0x10AF2)]⟩,
  ⟨["oriya", "orya"], oriya, [(0x951, 0x952), (0x964, 0x965), (0x1CDA, 0x1CDA), (0x1CF2, 0x1CF2)]⟩,
  ⟨["osage", "osge"], osage, [(0x301, 0x301), (0x304, 0x304), (0x30B, 0x30B), (0x358, 0x358)]⟩,
  ⟨["osma", "osmanya"], osmanya, []⟩,
  ⟨["hmng", "pahawhhmong"], pahawhHmong, []⟩,
  ⟨["palm", "palmyrene"], palmyrene, []⟩,
  ⟨["pauc", "paucinhau"], pauCinHau, []⟩,
  ⟨["phag", "phagspa"], phagsPa, [
      (0x1802, 0x1803), (0x1805, 0x1805), (0x202F, 0x202F), (0x3002, 0x3002)]⟩,
  ⟨["phnx", "phoenician"], phoenician, []⟩,
  ⟨["phlp", "psalterpahlavi"], psalterPahlavi, [(0x640, 0x640)]⟩,
  ⟨["rejang", "rjng"], rejang, []⟩,
  ⟨["runic", "runr"], runic, [(0x16EB, 0x16ED)]⟩,
  ⟨["samaritan", "samr"], samaritan, [(0x2E31, 0x2E31)]⟩,
  ⟨["saur", "saurashtra"], saurashtra, []⟩,
  ⟨["sharada", "shrd"], sharada, [
      (0x951, 0x951), (0x1CD7, 0x1CD7), (0x1CD9, 0x1CD9), (0x1CDC, 0x1CDD), (0x1CE0, 0x1CE0),
      (0x1CEA, 0x1CEA), (0x1CED, 0x1CED), (0xA830, 0xA835), (0xA838, 0xA838)]⟩,
  ⟨["shavian", "shaw"], shavian, [(0xB7, 0xB7)]⟩,
  ⟨["sidd", "siddham"], siddham, []⟩,
  ⟨["sidetic", "sidt"], sidetic, []⟩,
  ⟨["sgnw", "signwriting"], signwriting, []⟩,
  ⟨["sinh", "sinhala"], sinhala, [(0x964, 0x965), (0x1CF2, 0x1CF2)]⟩,
  ⟨["sogd", "sogdian"], sogdian, [(0x640, 0x640)]⟩,
  ⟨["sora", "sorasompeng"], soraSompeng, []⟩,
  ⟨["soyo", "soyombo"], soyombo, []⟩,
  ⟨["sund", "sundanese"], sundanese, []⟩,
  ⟨["sunu", "sunuwar"], sunuwar, [
      (0x300, 0x301), (0x303, 0x303), (0x30D, 0x30D), (0x310, 0x310), (0x32D, 0x32D),
      (0x331, 0x331)]⟩,
  ⟨["sylo", "sylotinagri"], sylotiNagri, [(0x964, 0x965), (0x9E6, 0x9EF)]⟩,
  ⟨["syrc", "syriac"], syriac, [
      (0x303, 0x304), (0x307, 0x308), (0x30A, 0x30A), (0x323, 0x325), (0x32D, 0x32E),
      (0x330, 0x331), (0x60C, 0x60C), (0x61B, 0x61C), (0x61F, 0x61F), (0x640, 0x640),
      (0x64B, 0x655), (0x670, 0x670), (0x1DF8, 0x1DF8), (0x1DFA, 0x1DFA)]⟩,
  ⟨["tagalog", "tglg"], tagalog, [(0x1735, 0x1736)]⟩,
  ⟨["tagb", "tagbanwa"], tagbanwa, [(0x1735, 0x1736)]⟩,
  ⟨["taile", "tale"], taiLe, [(0x300, 0x301), (0x307, 0x308), (0x30C, 0x30C), (0x1040, 0x1049)]⟩,
  ⟨["lana", "taitham"], taiTham, []⟩,
  ⟨["taiviet", "tavt"], taiViet, []⟩,
  ⟨["taiyo", "tayo"], taiYo, []⟩,
  ⟨["takr", "takri"], takri, [(0x964, 0x965), (0xA830, 0xA839)]⟩,
  ⟨["tamil", "taml"], tamil, [
      (0x951, 0x952), (0x964, 0x965), (0x1CDA, 0x1CDA), (0xA8F3, 0xA8F3), (0x11301, 0x11301),
      (0x11303, 0x11303), (0x1133B, 0x1133C)]⟩,
  ⟨["tangsa", "tnsa"], tangsa, []⟩,
  ⟨["tang", "tangut"], tangut, [(0x2FF0, 0x2FFF), (0x31EF, 0x31EF)]⟩,
  ⟨["telu", "telugu"], telugu, [
      (0x951, 0x952), (0x964, 0x965), (0x1CD5, 0x1CD6), (0x1CD8, 0x1CD8), (0x1CDA, 0x1CDA),
      (0x1CF2, 0x1CF2)]⟩,
  ⟨["thaa", "thaana"], thaana, [
      (0x60C, 0x60C), (0x61B, 0x61C), (0x61F, 0x61F), (0x660, 0x669), (0xFDF2, 0xFDF2),
      (0xFDFD, 0xFDFD)]⟩,
  ⟨["thai"], thai, [(0x2BC, 0x2BC), (0x2D7, 0x2D7), (0x303, 0x303), (0x331, 0x331)]⟩,
  ⟨["tibetan", "tibt"], tibetan, [(0x3008, 0x300B)]⟩,
  ⟨["tfng", "tifinagh"], tifinagh, [
      (0x302, 0x302), (0x304, 0x304), (0x306, 0x309), (0x323, 0x323)]⟩,
  ⟨["tirh", "tirhuta"], tirhuta, [
      (0x951, 0x952), (0x964, 0x965), (0x1CD5, 0x1CD5), (0x1CE2, 0x1CE2), (0x1CF2, 0x1CF2),
      (0xA830, 0xA839)]⟩,
  ⟨["todhri", "todr"], todhri, [
      (0x301, 0x301), (0x304, 0x304), (0x307, 0x307), (0x311, 0x311), (0x313, 0x313),
      (0x35E, 0x35E)]⟩,
  ⟨["tolongsiki", "tols"], tolongSiki, []⟩,
  ⟨["toto"], toto, [(0x2BC, 0x2BC)]⟩,
  ⟨["tulutigalari", "tutg"], tuluTigalari, [
      (0xCE6, 0xCEF), (0x1CF2, 0x1CF2), (0x1CF4, 0x1CF4), (0xA830, 0xA835), (0xA8F1, 0xA8F1)]⟩,
  ⟨["ugar", "ugaritic"], ugaritic, []⟩,
  ⟨["unknown", "zzzz"], unknown, []⟩,
  ⟨["vai", "vaii"], vai, []⟩,
  ⟨["vith", "vithkuqi"], vithkuqi, []⟩,
  ⟨["wancho", "wcho"], wancho, []⟩,
  ⟨["wara", "warangciti"], warangCiti, []⟩,
  ⟨["yezi", "yezidi"], yezidi, [(0x60C, 0x60C), (0x61B, 0x61B), (0x61F, 0x61F), (0x660, 0x669)]⟩,
  ⟨["yi", "yiii"], yi, [
      (0x3001, 0x3002), (0x3008, 0x3011), (0x3014, 0x301B), (0x30FB, 0x30FB), (0xFF61, 0xFF65)]⟩,
  ⟨["zanabazarsquare", "zanb"], zanabazarSquare, []⟩]

def withName? (name : String) : Option Entry :=
  entries.find? fun e => e.names.contains name

/-- The code points that belong to the script with a name. -/
def named? (name : String) : Option (Nat → Bool) :=
  (withName? name).map fun e => e.own.contains

/-- Whether a code point is used with a script that it does not belong to. -/
def isShared (n : Nat) : Bool :=
  entries.any fun e => e.shared.contains n

/-- The code points that are used with the script with a name. -/
def extended? (name : String) : Option (Nat → Bool) :=
  (withName? name).map fun e n =>
    if e.names.contains "common" || e.names.contains "inherited" then
      e.own.contains n && !isShared n
    else e.own.contains n || e.shared.contains n

end MockProvider.Unicode.Script
