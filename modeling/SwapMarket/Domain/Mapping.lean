import SwapMarket.Text.Runs

/-!
# The characters of domain names

Of the characters that a domain name may be written with, some are as good as others: letters of
either case, wide and narrow forms, letters in circles, and so on. **`mapping`** says what becomes
of a character: it stays (**`usableRuns`**), it is left out (**`ignoredRuns`**), other characters
take its place (**`replacedRuns`**, **`replacedBlocks`**), or a name cannot have it.
-/

namespace SwapMarket.Domain

open Text (ShiftRun ImageBlock)

/-- The characters that are left out. -/
def ignoredRuns : List (Nat × Nat) := [
  (0xAD, 0xAD), (0x34F, 0x34F), (0x115F, 0x1160), (0x17B4, 0x17B5), (0x180B, 0x180F),
  (0x200B, 0x200B), (0x2060, 0x2064), (0x206A, 0x206F), (0x3164, 0x3164), (0xFE00, 0xFE0F),
  (0xFEFF, 0xFEFF), (0xFFA0, 0xFFA0), (0x1BCA0, 0x1BCA3), (0x1D173, 0x1D17A), (0xE0100, 0xE01EF)]

/-- Runs of characters in whose places characters at one distance are put. -/
def replacedRuns : List ShiftRun := [
  ⟨0x41, 0x5A, 1, 32⟩, ⟨0xC0, 0xD6, 1, 32⟩, ⟨0xD8, 0xDE, 1, 32⟩, ⟨0x100, 0x12E, 2, 1⟩,
  ⟨0x139, 0x13D, 2, 1⟩, ⟨0x141, 0x147, 2, 1⟩, ⟨0x14A, 0x176, 2, 1⟩, ⟨0x179, 0x17D, 2, 1⟩,
  ⟨0x1A0, 0x1A4, 2, 1⟩, ⟨0x1CD, 0x1DB, 2, 1⟩, ⟨0x1DE, 0x1EE, 2, 1⟩, ⟨0x1F8, 0x21E, 2, 1⟩,
  ⟨0x222, 0x232, 2, 1⟩, ⟨0x246, 0x24E, 2, 1⟩, ⟨0x388, 0x38A, 1, 37⟩, ⟨0x391, 0x3A1, 1, 32⟩,
  ⟨0x3A3, 0x3AB, 1, 32⟩, ⟨0x3D8, 0x3EE, 2, 1⟩, ⟨0x3FD, 0x3FF, 1, -130⟩, ⟨0x400, 0x40F, 1, 80⟩,
  ⟨0x410, 0x42F, 1, 32⟩, ⟨0x460, 0x480, 2, 1⟩, ⟨0x48A, 0x4BE, 2, 1⟩, ⟨0x4C1, 0x4CD, 2, 1⟩,
  ⟨0x4D0, 0x52E, 2, 1⟩, ⟨0x531, 0x556, 1, 48⟩, ⟨0x10A0, 0x10C5, 1, 7264⟩, ⟨0x13F8, 0x13FD, 1, -8⟩,
  ⟨0x1C90, 0x1CBA, 1, -3008⟩, ⟨0x1CBD, 0x1CBF, 1, -3008⟩, ⟨0x1D33, 0x1D3A, 1, -7372⟩,
  ⟨0x1D5D, 0x1D5F, 1, -6571⟩, ⟨0x1DA4, 0x1DA6, 1, -6972⟩, ⟨0x1DAE, 0x1DB1, 1, -6972⟩,
  ⟨0x1DBC, 0x1DBE, 1, -6956⟩, ⟨0x1E00, 0x1E94, 2, 1⟩, ⟨0x1EA0, 0x1EFE, 2, 1⟩,
  ⟨0x1F08, 0x1F0F, 1, -8⟩, ⟨0x1F18, 0x1F1D, 1, -8⟩, ⟨0x1F28, 0x1F2F, 1, -8⟩,
  ⟨0x1F38, 0x1F3F, 1, -8⟩, ⟨0x1F48, 0x1F4D, 1, -8⟩, ⟨0x1F59, 0x1F5F, 2, -8⟩,
  ⟨0x1F68, 0x1F6F, 1, -8⟩, ⟨0x2074, 0x2079, 1, -8256⟩, ⟨0x2080, 0x2089, 1, -8272⟩,
  ⟨0x2096, 0x2099, 1, -8235⟩, ⟨0x2119, 0x211B, 1, -8361⟩, ⟨0x2135, 0x2138, 1, -7013⟩,
  ⟨0x2460, 0x2468, 1, -9263⟩, ⟨0x24B6, 0x24CF, 1, -9301⟩, ⟨0x24D0, 0x24E9, 1, -9327⟩,
  ⟨0x2C00, 0x2C2F, 1, 48⟩, ⟨0x2C67, 0x2C6B, 2, 1⟩, ⟨0x2C80, 0x2CE2, 2, 1⟩,
  ⟨0x3137, 0x3139, 1, -8244⟩, ⟨0x313A, 0x313F, 1, -8074⟩, ⟨0x3141, 0x3143, 1, -8251⟩,
  ⟨0x3145, 0x314E, 1, -8252⟩, ⟨0x314F, 0x3163, 1, -8174⟩, ⟨0x3178, 0x317C, 1, -8269⟩,
  ⟨0x3184, 0x3186, 1, -8237⟩, ⟨0x3263, 0x3265, 1, -8542⟩, ⟨0x3269, 0x326D, 1, -8539⟩,
  ⟨0x32E4, 0x32E9, 1, -538⟩, ⟨0x32EE, 0x32F2, 1, -528⟩, ⟨0x32F5, 0x32FA, 1, -525⟩,
  ⟨0x32FB, 0x32FE, 1, -524⟩, ⟨0xA640, 0xA66C, 2, 1⟩, ⟨0xA680, 0xA69A, 2, 1⟩, ⟨0xA722, 0xA72E, 2, 1⟩,
  ⟨0xA732, 0xA76E, 2, 1⟩, ⟨0xA77E, 0xA786, 2, 1⟩, ⟨0xA796, 0xA7A8, 2, 1⟩, ⟨0xA7B4, 0xA7C2, 2, 1⟩,
  ⟨0xA7CC, 0xA7DA, 2, 1⟩, ⟨0xAB70, 0xABBF, 1, -38864⟩, ⟨0xFB24, 0xFB26, 1, -62793⟩,
  ⟨0xFE41, 0xFE44, 1, -52789⟩, ⟨0xFF01, 0xFF20, 1, -65248⟩, ⟨0xFF21, 0xFF3A, 1, -65216⟩,
  ⟨0xFF3B, 0xFF5E, 1, -65248⟩, ⟨0xFF85, 0xFF8A, 1, -52923⟩, ⟨0xFF8F, 0xFF93, 1, -52913⟩,
  ⟨0xFF96, 0xFF9B, 1, -52910⟩, ⟨0xFFA7, 0xFFA9, 1, -61092⟩, ⟨0xFFAA, 0xFFAF, 1, -60922⟩,
  ⟨0xFFB1, 0xFFB3, 1, -61099⟩, ⟨0xFFB5, 0xFFBE, 1, -61100⟩, ⟨0xFFC2, 0xFFC7, 1, -61025⟩,
  ⟨0xFFCA, 0xFFCF, 1, -61027⟩, ⟨0xFFD2, 0xFFD7, 1, -61029⟩, ⟨0xFFDA, 0xFFDC, 1, -61031⟩,
  ⟨0xFFE9, 0xFFEC, 1, -56921⟩, ⟨0x10400, 0x10427, 1, 40⟩, ⟨0x104B0, 0x104D3, 1, 40⟩,
  ⟨0x10570, 0x1057A, 1, 39⟩, ⟨0x1057C, 0x1058A, 1, 39⟩, ⟨0x1058C, 0x10592, 1, 39⟩,
  ⟨0x107B6, 0x107B8, 1, -67062⟩, ⟨0x10C80, 0x10CB2, 1, 64⟩, ⟨0x10D50, 0x10D65, 1, 32⟩,
  ⟨0x118A0, 0x118BF, 1, 32⟩, ⟨0x16E40, 0x16E5F, 1, 32⟩, ⟨0x16EA0, 0x16EB8, 1, 27⟩,
  ⟨0x1CCD6, 0x1CCEF, 1, -117877⟩, ⟨0x1CCF0, 0x1CCF9, 1, -117952⟩, ⟨0x1D400, 0x1D419, 1, -119711⟩,
  ⟨0x1D41A, 0x1D433, 1, -119737⟩, ⟨0x1D434, 0x1D44D, 1, -119763⟩, ⟨0x1D44E, 0x1D454, 1, -119789⟩,
  ⟨0x1D456, 0x1D467, 1, -119789⟩, ⟨0x1D468, 0x1D481, 1, -119815⟩, ⟨0x1D482, 0x1D49B, 1, -119841⟩,
  ⟨0x1D4A9, 0x1D4AC, 1, -119867⟩, ⟨0x1D4AE, 0x1D4B5, 1, -119867⟩, ⟨0x1D4B6, 0x1D4B9, 1, -119893⟩,
  ⟨0x1D4BE, 0x1D4C3, 1, -119893⟩, ⟨0x1D4C5, 0x1D4CF, 1, -119893⟩, ⟨0x1D4D0, 0x1D4E9, 1, -119919⟩,
  ⟨0x1D4EA, 0x1D503, 1, -119945⟩, ⟨0x1D507, 0x1D50A, 1, -119971⟩, ⟨0x1D50D, 0x1D514, 1, -119971⟩,
  ⟨0x1D516, 0x1D51C, 1, -119971⟩, ⟨0x1D51E, 0x1D537, 1, -119997⟩, ⟨0x1D53B, 0x1D53E, 1, -120023⟩,
  ⟨0x1D540, 0x1D544, 1, -120023⟩, ⟨0x1D54A, 0x1D550, 1, -120023⟩, ⟨0x1D552, 0x1D56B, 1, -120049⟩,
  ⟨0x1D56C, 0x1D585, 1, -120075⟩, ⟨0x1D586, 0x1D59F, 1, -120101⟩, ⟨0x1D5A0, 0x1D5B9, 1, -120127⟩,
  ⟨0x1D5BA, 0x1D5D3, 1, -120153⟩, ⟨0x1D5D4, 0x1D5ED, 1, -120179⟩, ⟨0x1D5EE, 0x1D607, 1, -120205⟩,
  ⟨0x1D608, 0x1D621, 1, -120231⟩, ⟨0x1D622, 0x1D63B, 1, -120257⟩, ⟨0x1D63C, 0x1D655, 1, -120283⟩,
  ⟨0x1D656, 0x1D66F, 1, -120309⟩, ⟨0x1D670, 0x1D689, 1, -120335⟩, ⟨0x1D68A, 0x1D6A3, 1, -120361⟩,
  ⟨0x1D6A8, 0x1D6B8, 1, -119543⟩, ⟨0x1D6BA, 0x1D6C0, 1, -119543⟩, ⟨0x1D6C2, 0x1D6D2, 1, -119569⟩,
  ⟨0x1D6D4, 0x1D6DA, 1, -119569⟩, ⟨0x1D6E2, 0x1D6F2, 1, -119601⟩, ⟨0x1D6F4, 0x1D6FA, 1, -119601⟩,
  ⟨0x1D6FC, 0x1D70C, 1, -119627⟩, ⟨0x1D70E, 0x1D714, 1, -119627⟩, ⟨0x1D71C, 0x1D72C, 1, -119659⟩,
  ⟨0x1D72E, 0x1D734, 1, -119659⟩, ⟨0x1D736, 0x1D746, 1, -119685⟩, ⟨0x1D748, 0x1D74E, 1, -119685⟩,
  ⟨0x1D756, 0x1D766, 1, -119717⟩, ⟨0x1D768, 0x1D76E, 1, -119717⟩, ⟨0x1D770, 0x1D780, 1, -119743⟩,
  ⟨0x1D782, 0x1D788, 1, -119743⟩, ⟨0x1D790, 0x1D7A0, 1, -119775⟩, ⟨0x1D7A2, 0x1D7A8, 1, -119775⟩,
  ⟨0x1D7AA, 0x1D7BA, 1, -119801⟩, ⟨0x1D7BC, 0x1D7C2, 1, -119801⟩, ⟨0x1D7CE, 0x1D7D7, 1, -120734⟩,
  ⟨0x1D7D8, 0x1D7E1, 1, -120744⟩, ⟨0x1D7E2, 0x1D7EB, 1, -120754⟩, ⟨0x1D7EC, 0x1D7F5, 1, -120764⟩,
  ⟨0x1D7F6, 0x1D7FF, 1, -120774⟩, ⟨0x1E030, 0x1E038, 1, -121856⟩, ⟨0x1E039, 0x1E03B, 1, -121855⟩,
  ⟨0x1E03C, 0x1E046, 1, -121854⟩, ⟨0x1E051, 0x1E059, 1, -121889⟩, ⟨0x1E05F, 0x1E064, 1, -121884⟩,
  ⟨0x1E900, 0x1E921, 1, 34⟩, ⟨0x1EE0A, 0x1EE0D, 1, -124871⟩, ⟨0x1EE2A, 0x1EE2D, 1, -124903⟩,
  ⟨0x1EE8B, 0x1EE8D, 1, -124999⟩, ⟨0x1EEAB, 0x1EEAD, 1, -125031⟩, ⟨0x1F130, 0x1F149, 1, -127183⟩,
  ⟨0x1FBF0, 0x1FBF9, 1, -129984⟩]

/-- Further characters in whose places others are put. -/
def replacedBlocks : List ImageBlock := [
  ⟨0xA0, [" "]⟩, ⟨0xA8, [" \u0308||a"]⟩,
  ⟨0xAF, [" \u0304|||2|3| \u0301|μ||| \u0327|1|o||1⁄4|1⁄2|3⁄4"]⟩, ⟨0x130, ["i\u0307||ij|ij|ĵ||ķ"]⟩,
  ⟨0x13F, ["l·|l·"]⟩, ⟨0x149, ["\u02bcn"]⟩, ⟨0x178, ["ÿ"]⟩,
  ⟨0x17F, ["s||ɓ|ƃ||ƅ||ɔ|ƈ||ɖ|ɗ|ƌ|||ǝ|ə|ɛ|ƒ||ɠ|ɣ||ɩ|ɨ|ƙ||||ɯ|ɲ||ɵ"]⟩,
  ⟨0x1A6, ["ʀ|ƨ||ʃ|||ƭ||ʈ|ư||ʊ|ʋ|ƴ||ƶ||ʒ|ƹ||||ƽ"]⟩, ⟨0x1C4, ["dž|dž|dž|lj|lj|lj|nj|nj|nj"]⟩,
  ⟨0x1F1, ["dz|dz|dz|ǵ||ƕ|ƿ"]⟩, ⟨0x220, ["ƞ"]⟩, ⟨0x23A, ["ⱥ|ȼ||ƚ|ⱦ|||ɂ||ƀ|ʉ|ʌ"]⟩,
  ⟨0x2B0, ["h|ɦ|j|r|ɹ|ɻ|ʁ|w|y"]⟩,
  ⟨0x2D8, [" \u0306| \u0307| \u030a| \u0328| \u0303| \u030b|||ɣ|l|s|x|ʕ"]⟩,
  ⟨0x340, ["\u0300|\u0301||\u0313|\u0308\u0301|ι"]⟩, ⟨0x370, ["ͱ||ͳ||\u02b9||ͷ|||| ι||||;|ϳ"]⟩,
  ⟨0x384, [" \u0301| \u0308\u0301|ά|·"]⟩, ⟨0x38C, ["ό||ύ|ώ"]⟩, ⟨0x3CF, ["ϗ|β|θ|υ|ύ|ϋ|φ|π"]⟩,
  ⟨0x3F0, ["κ|ρ|σ||θ|ε||ϸ||σ|ϻ"]⟩, ⟨0x4C0, ["ӏ"]⟩, ⟨0x587, ["եւ"]⟩,
  ⟨0x675, ["\u0627\u0674|\u0648\u0674|\u06c7\u0674|\u064a\u0674"]⟩,
  ⟨0x958, ["क\u093c|ख\u093c|ग\u093c|ज\u093c|ड\u093c|ढ\u093c|फ\u093c|य\u093c"]⟩,
  ⟨0x9DC, ["ড\u09bc|ঢ\u09bc||য\u09bc"]⟩, ⟨0xA33, ["ਲ\u0a3c|||ਸ\u0a3c"]⟩,
  ⟨0xA59, ["ਖ\u0a3c|ਗ\u0a3c|ਜ\u0a3c|||ਫ\u0a3c"]⟩, ⟨0xB5C, ["ଡ\u0b3c|ଢ\u0b3c"]⟩,
  ⟨0xE33, ["\u0e4dา"]⟩, ⟨0xEB3, ["\u0ecdາ"]⟩, ⟨0xEDC, ["ຫນ|ຫມ"]⟩, ⟨0xF0C, ["་"]⟩,
  ⟨0xF43, ["ག\u0fb7"]⟩, ⟨0xF4D, ["ཌ\u0fb7"]⟩, ⟨0xF52, ["ད\u0fb7"]⟩, ⟨0xF57, ["བ\u0fb7"]⟩,
  ⟨0xF5C, ["ཛ\u0fb7"]⟩, ⟨0xF69, ["ཀ\u0fb5"]⟩,
  ⟨0xF73, [
      "\u0f71\u0f72||\u0f71\u0f74|\u0fb2\u0f80|\u0fb2\u0f71\u0f80|\u0fb3\u0f80",
      "\u0fb3\u0f71\u0f80"]⟩,
  ⟨0xF81, ["\u0f71\u0f80"]⟩, ⟨0xF93, ["\u0f92\u0fb7"]⟩, ⟨0xF9D, ["\u0f9c\u0fb7"]⟩,
  ⟨0xFA2, ["\u0fa1\u0fb7"]⟩, ⟨0xFA7, ["\u0fa6\u0fb7"]⟩, ⟨0xFAC, ["\u0fab\u0fb7"]⟩,
  ⟨0xFB9, ["\u0f90\u0fb5"]⟩, ⟨0x10C7, ["ⴧ"]⟩, ⟨0x10CD, ["ⴭ"]⟩, ⟨0x10FC, ["ნ"]⟩,
  ⟨0x1C80, ["в|д|о|с|т|т|ъ|ѣ|ꙋ|ᲊ"]⟩, ⟨0x1D2C, ["a|æ|b||d|e|ǝ"]⟩,
  ⟨0x1D3C, [
      "o|ȣ|p|r|t|u|w|a|ɐ|ɑ|ᴂ|b|d|e|ə|ɛ|ɜ|g||k|m|ŋ|o|ɔ|ᴖ|ᴗ|p|t|u|ᴝ|ɯ|v|ᴥ||||φ|χ|i|r|u|v|β|γ|ρ|φ",
      "χ"]⟩,
  ⟨0x1D78, ["н"]⟩, ⟨0x1D9B, ["ɒ|c|ɕ|ð|ɜ|f|ɟ|ɡ|ɥ||||ᵻ|ʝ|ɭ|ᶅ|ʟ|ɱ|ɰ"]⟩,
  ⟨0x1DB2, ["ɸ|ʂ|ʃ|ƫ|ʉ|ʊ|ᴜ|ʋ|ʌ|z||||θ"]⟩, ⟨0x1E9A, ["a\u02be|ṡ|||ß"]⟩,
  ⟨0x1F71, [
      "ά||έ||ή||ί||ό||ύ||ώ|||ἀι|ἁι|ἂι|ἃι|ἄι|ἅι|ἆι|ἇι|ἀι|ἁι|ἂι|ἃι|ἄι|ἅι|ἆι|ἇι|ἠι|ἡι|ἢι|ἣι|ἤι|ἥι",
      "ἦι|ἧι|ἠι|ἡι|ἢι|ἣι|ἤι|ἥι|ἦι|ἧι|ὠι|ὡι|ὢι|ὣι|ὤι|ὥι|ὦι|ὧι|ὠι|ὡι|ὢι|ὣι|ὤι|ὥι|ὦι|ὧι|||ὰι|αι|άι",
      "||ᾶι|ᾰ|ᾱ|ὰ|ά|αι| \u0313|ι| \u0313| \u0342| \u0308\u0342|ὴι|ηι|ήι|||ῆι|ὲ|έ|ὴ|ή|ηι",
      " \u0313\u0300| \u0313\u0301| \u0313\u0342||||ΐ"]⟩,
  ⟨0x1FD8, ["ῐ|ῑ|ὶ|ί|| \u0314\u0300| \u0314\u0301| \u0314\u0342||||ΰ"]⟩,
  ⟨0x1FE8, [
      "ῠ|ῡ|ὺ|ύ|ῥ| \u0308\u0300| \u0308\u0301|\x60|||ὼι|ωι|ώι|||ῶι|ὸ|ό|ὼ|ώ|ωι| \u0301| \u0314|| ",
      " | | | | | | | | | "]⟩,
  ⟨0x2011, ["‐"]⟩, ⟨0x2017, [" \u0333"]⟩, ⟨0x202F, [" ||||′′|′′′||‵‵|‵‵‵"]⟩,
  ⟨0x203C, ["!!|| \u0305"]⟩, ⟨0x2047, ["??|?!|!?"]⟩, ⟨0x2057, ["′′′′"]⟩, ⟨0x205F, [" "]⟩,
  ⟨0x2070, ["0|i"]⟩, ⟨0x207A, ["+|−|=|(|)|n"]⟩, ⟨0x208A, ["+|−|=|(|)||a|e|o|x|ə|h"]⟩,
  ⟨0x209A, ["p|s|t"]⟩, ⟨0x20A8, ["rs"]⟩,
  ⟨0x2100, ["a/c|a/s|c|°c||c/o|c/u|ɛ||°f|g|h|h|h|h|ħ|i|i|l|l||n|no"]⟩,
  ⟨0x211C, ["r|r|||sm|tel|tm||z||ω||z||k|å|b|c||e|e|f|ⅎ|m|o"]⟩, ⟨0x2139, ["i||fax|π|γ|γ|π|∑"]⟩,
  ⟨0x2145, ["d|d|e|i|j"]⟩,
  ⟨0x2150, [
      "1⁄7|1⁄9|1⁄10|1⁄3|2⁄3|1⁄5|2⁄5|3⁄5|4⁄5|1⁄6|5⁄6|1⁄8|3⁄8|5⁄8|7⁄8|1⁄|i|ii|iii|iv|v|vi|vii",
      "viii|ix|x|xi|xii|l|c|d|m|i|ii|iii|iv|v|vi|vii|viii|ix|x|xi|xii|l|c|d|m||||ↄ"]⟩,
  ⟨0x2189, ["0⁄3"]⟩, ⟨0x222C, ["∫∫|∫∫∫||∮∮|∮∮∮"]⟩, ⟨0x2329, ["〈|〉"]⟩,
  ⟨0x2469, [
      "10|11|12|13|14|15|16|17|18|19|20|(1)|(2)|(3)|(4)|(5)|(6)|(7)|(8)|(9)|(10)|(11)|(12)|(13)",
      "(14)|(15)|(16)|(17)|(18)|(19)|(20)"]⟩,
  ⟨0x249C, [
      "(a)|(b)|(c)|(d)|(e)|(f)|(g)|(h)|(i)|(j)|(k)|(l)|(m)|(n)|(o)|(p)|(q)|(r)|(s)|(t)|(u)|(v)",
      "(w)|(x)|(y)|(z)"]⟩,
  ⟨0x24EA, ["0"]⟩, ⟨0x2A0C, ["∫∫∫∫"]⟩, ⟨0x2A74, ["::=|==|==="]⟩, ⟨0x2ADC, ["⫝\u0338"]⟩,
  ⟨0x2C60, ["ⱡ||ɫ|ᵽ|ɽ"]⟩, ⟨0x2C6D, ["ɑ|ɱ|ɐ|ɒ||ⱳ|||ⱶ"]⟩, ⟨0x2C7C, ["j|v|ȿ|ɀ"]⟩, ⟨0x2CEB, ["ⳬ||ⳮ"]⟩,
  ⟨0x2CF2, ["ⳳ"]⟩, ⟨0x2D6F, ["ⵡ"]⟩, ⟨0x2E9F, ["母"]⟩, ⟨0x2EF3, ["龟"]⟩,
  ⟨0x2F00, [
      "一|丨|丶|丿|乙|亅|二|亠|人|儿|入|八|冂|冖|冫|几|凵|刀|力|勹|匕|匚|匸|十|卜|卩|厂|厶|又|口|囗|土|士|夂|夊|夕|大|女|子|宀|寸|小|尢|尸",
      "屮|山|巛|工|己|巾|干|幺|广|廴|廾|弋|弓|彐|彡|彳|心|戈|戶|手|支|攴|文|斗|斤|方|无|日|曰|月|木|欠|止|歹|殳|毋|比|毛|氏|气|水|火|爪|父",
      "爻|爿|片|牙|牛|犬|玄|玉|瓜|瓦|甘|生|用|田|疋|疒|癶|白|皮|皿|目|矛|矢|石|示|禸|禾|穴|立|竹|米|糸|缶|网|羊|羽|老|而|耒|耳|聿|肉|臣|自",
      "至|臼|舌|舛|舟|艮|色|艸|虍|虫|血|行|衣|襾|見|角|言|谷|豆|豕|豸|貝|赤|走|足|身|車|辛|辰|辵|邑|酉|釆|里|金|長|門|阜|隶|隹|雨|靑|非|面",
      "革|韋|韭|音|頁|風|飛|食|首|香|馬|骨|高|髟|鬥|鬯|鬲|鬼|魚|鳥|鹵|鹿|麥|麻|黃|黍|黑|黹|黽|鼎|鼓|鼠|鼻|齊|齒|龍|龜|龠"]⟩,
  ⟨0x3000, [" ||."]⟩, ⟨0x3036, ["〒||十|卄|卅"]⟩, ⟨0x309B, [" \u3099| \u309a|||より"]⟩, ⟨0x30FF, ["コト"]⟩,
  ⟨0x3131, ["\u1100|\u1101|\u11aa|\u1102|\u11ac|\u11ad"]⟩, ⟨0x3140, ["\u111a||||\u1121"]⟩,
  ⟨0x3165, [
      "\u1114|\u1115|\u11c7|\u11c8|\u11cc|\u11ce|\u11d3|\u11d7|\u11d9|\u111c|\u11dd|\u11df",
      "\u111d|\u111e|\u1120|\u1122|\u1123|\u1127|\u1129"]⟩,
  ⟨0x317D, [
      "\u1132|\u1136|\u1140|\u1147|\u114c|\u11f1|\u11f2||||\u1184|\u1185|\u1188|\u1191|\u1192",
      "\u1194|\u119e|\u11a1||||一|二|三|四|上|中|下|甲|乙|丙|丁|天|地|人"]⟩,
  ⟨0x3200, [
      "(\u1100)|(\u1102)|(\u1103)|(\u1105)|(\u1106)|(\u1107)|(\u1109)|(\u110b)|(\u110c)",
      "(\u110e)|(\u110f)|(\u1110)|(\u1111)|(\u1112)|(가)|(나)|(다)|(라)|(마)|(바)|(사)|(아)|(자)|(차)|(카)",
      "(타)|(파)|(하)|(주)|(오전)|(오후)||(一)|(二)|(三)|(四)|(五)|(六)|(七)|(八)|(九)|(十)|(月)|(火)|(水)|(木)|(金)",
      "(土)|(日)|(株)|(有)|(社)|(名)|(特)|(財)|(祝)|(労)|(代)|(呼)|(学)|(監)|(企)|(資)|(協)|(祭)|(休)|(自)|(至)|問|幼",
      "文|箏"]⟩,
  ⟨0x3250, [
      "pte|21|22|23|24|25|26|27|28|29|30|31|32|33|34|35|\u1100|\u1102|\u1103||||\u1109|\u110b",
      "\u110c"]⟩,
  ⟨0x326E, [
      "가|나|다|라|마|바|사|아|자|차|카|타|파|하|참고|주의|우||一|二|三|四|五|六|七|八|九|十|月|火|水|木|金|土|日|株|有|社|名|特|財|祝|労|秘",
      "男|女|適|優|印|注|項|休|写|正|上|中|下|左|右|医|宗|学|監|企|資|協|夜|36|37|38|39|40|41|42|43|44|45|46|47|48|49",
      "50|1月|2月|3月|4月|5月|6月|7月|8月|9月|10月|11月|12月|hg|erg|ev|ltd|ア|イ|ウ|エ|オ|カ|キ|ク|ケ|コ|サ|シ|ス|セ|ソ|タ",
      "チ|ツ|テ|ト"]⟩,
  ⟨0x32EA, ["ヒ|フ|ヘ|ホ"]⟩, ⟨0x32F3, ["ヤ|ユ"]⟩,
  ⟨0x32FF, [
      "令和|アパ\u30fcト|アルファ|アンペア|ア\u30fcル|イニング|インチ|ウォン|エスク\u30fcド|エ\u30fcカ\u30fc|オンス|オ\u30fcム|カイリ",
      "カラット|カロリ\u30fc|ガロン|ガンマ|ギガ|ギニ\u30fc|キュリ\u30fc|ギルダ\u30fc|キロ|キログラム|キロメ\u30fcトル|キロワット|グラム",
      "グラムトン|クルゼイロ|クロ\u30fcネ|ケ\u30fcス|コルナ|コ\u30fcポ|サイクル|サンチ\u30fcム|シリング|センチ|セント|ダ\u30fcス|デシ|ドル",
      "トン|ナノ|ノット|ハイツ|パ\u30fcセント|パ\u30fcツ|バ\u30fcレル|ピアストル|ピクル|ピコ|ビル|ファラッド|フィ\u30fcト|ブッシェル|フラン",
      "ヘクタ\u30fcル|ペソ|ペニヒ|ヘルツ|ペンス|ペ\u30fcジ|ベ\u30fcタ|ポイント|ボルト|ホン|ポンド|ホ\u30fcル|ホ\u30fcン|マイクロ|マイル",
      "マッハ|マルク|マンション|ミクロン|ミリ|ミリバ\u30fcル|メガ|メガトン|メ\u30fcトル|ヤ\u30fcド|ヤ\u30fcル|ユアン|リットル|リラ",
      "ルピ\u30fc|ル\u30fcブル|レム|レントゲン|ワット|0点|1点|2点|3点|4点|5点|6点|7点|8点|9点|10点|11点|12点|13点|14点|15点",
      "16点|17点|18点|19点|20点|21点|22点|23点|24点|hpa|da|au|bar|ov|pc|dm|dm2|dm3|iu|平成|昭和|大正|明治|株式会社",
      "pa|na|μa|ma|ka|kb|mb|gb|cal|kcal|pf|nf|μf|μg|mg|kg|hz|khz|mhz|ghz|thz|μl|ml|dl|kl|fm|nm",
      "μm|mm|cm|km|mm2|cm2|m2|km2|mm3|cm3|m3|km3|m∕s|m∕s2|pa|kpa|mpa|gpa|rad|rad∕s|rad∕s2|ps|ns",
      "μs|ms|pv|nv|μv|mv|kv|mv|pw|nw|μw|mw|kw|mw|kω|mω||bq|cc|cd|c∕kg||db|gy|ha|hp|in|kk|km|kt",
      "lm|ln|log|lx|mb|mil|mol|ph||ppm|pr|sr|sv|wb|v∕m|a∕m|1日|2日|3日|4日|5日|6日|7日|8日|9日|10日|11日",
      "12日|13日|14日|15日|16日|17日|18日|19日|20日|21日|22日|23日|24日|25日|26日|27日|28日|29日|30日|31日|gal"]⟩,
  ⟨0xA69C, ["ъ|ь"]⟩, ⟨0xA770, ["ꝯ"]⟩, ⟨0xA779, ["ꝺ||ꝼ||ᵹ"]⟩, ⟨0xA78B, ["ꞌ||ɥ|||ꞑ||ꞓ"]⟩,
  ⟨0xA7AA, ["ɦ|ɜ|ɡ|ɬ|ɪ||ʞ|ʇ|ʝ|ꭓ"]⟩, ⟨0xA7C4, ["ꞔ|ʂ|ᶎ|ꟈ||ꟊ||ɤ"]⟩, ⟨0xA7DC, ["ƛ"]⟩,
  ⟨0xA7F1, ["s|c|f|q|ꟶ|||ħ|œ"]⟩, ⟨0xAB5C, ["ꜧ|ꬷ|ɫ|ꭒ"]⟩, ⟨0xAB69, ["ʍ"]⟩,
  ⟨0xF900, [
      "豈|更|車|賈|滑|串|句|龜|龜|契|金|喇|奈|懶|癩|羅|蘿|螺|裸|邏|樂|洛|烙|珞|落|酪|駱|亂|卵|欄|爛|蘭|鸞|嵐|濫|藍|襤|拉|臘|蠟|廊|朗|浪|狼",
      "郎|來|冷|勞|擄|櫓|爐|盧|老|蘆|虜|路|露|魯|鷺|碌|祿|綠|菉|錄|鹿|論|壟|弄|籠|聾|牢|磊|賂|雷|壘|屢|樓|淚|漏|累|縷|陋|勒|肋|凜|凌|稜|綾",
      "菱|陵|讀|拏|樂|諾|丹|寧|怒|率|異|北|磻|便|復|不|泌|數|索|參|塞|省|葉|說|殺|辰|沈|拾|若|掠|略|亮|兩|凉|梁|糧|良|諒|量|勵|呂|女|廬|旅",
      "濾|礪|閭|驪|麗|黎|力|曆|歷|轢|年|憐|戀|撚|漣|煉|璉|秊|練|聯|輦|蓮|連|鍊|列|劣|咽|烈|裂|說|廉|念|捻|殮|簾|獵|令|囹|寧|嶺|怜|玲|瑩|羚",
      "聆|鈴|零|靈|領|例|禮|醴|隸|惡|了|僚|寮|尿|料|樂|燎|療|蓼|遼|龍|暈|阮|劉|杻|柳|流|溜|琉|留|硫|紐|類|六|戮|陸|倫|崙|淪|輪|律|慄|栗|率",
      "隆|利|吏|履|易|李|梨|泥|理|痢|罹|裏|裡|里|離|匿|溺|吝|燐|璘|藺|隣|鱗|麟|林|淋|臨|立|笠|粒|狀|炙|識|什|茶|刺|切|度|拓|糖|宅|洞|暴|輻",
      "行|降|見|廓|兀|嗀|||塚||晴|||凞|猪|益|礼|神|祥|福|靖|精|羽||蘒||諸|||逸|都||||飯|飼|館|鶴|郞|隷|侮|僧|免|勉|勤|卑|喝|嘆|器|塀",
      "墨|層|屮|悔|慨|憎|懲|敏|既|暑|梅|海|渚|漢|煮|爫|琢|碑|社|祉|祈|祐|祖|祝|禍|禎|穀|突|節|練|縉|繁|署|者|臭|艹|艹|著|褐|視|謁|謹|賓|贈",
      "辶|逸|難|響|頻|恵|𤋮|舘|||並|况|全|侀|充|冀|勇|勺|喝|啕|喙|嗢|塚|墳|奄|奔|婢|嬨|廒|廙|彩|徭|惘|慎|愈|憎|慠|懲|戴|揄|搜|摒|敖|晴|朗",
      "望|杖|歹|殺|流|滛|滋|漢|瀞|煮|瞧|爵|犯|猪|瑱|甆|画|瘝|瘟|益|盛|直|睊|着|磌|窱|節|类|絛|練|缾|者|荒|華|蝹|襁|覆|視|調|諸|請|謁|諾|諭",
      "謹|變|贈|輸|遲|醙|鉶|陼|難|靖|韛|響|頋|頻|鬒|龜|𢡊|𢡄|𣏕|㮝|䀘|䀹|𥉉|𥳐|𧻓|齃|龎"]⟩,
  ⟨0xFB00, ["ff|fi|fl|ffi|ffl|st|st"]⟩, ⟨0xFB13, ["մն|մե|մի|վն|մխ"]⟩,
  ⟨0xFB1D, [
      "\u05d9\u05b4||\u05f2\u05b7|\u05e2|\u05d0|\u05d3|\u05d4||||\u05e8|\u05ea|+|\u05e9\u05c1",
      "\u05e9\u05c2|\u05e9\u05bc\u05c1|\u05e9\u05bc\u05c2|\u05d0\u05b7|\u05d0\u05b8",
      "\u05d0\u05bc|\u05d1\u05bc|\u05d2\u05bc|\u05d3\u05bc|\u05d4\u05bc|\u05d5\u05bc",
      "\u05d6\u05bc||\u05d8\u05bc|\u05d9\u05bc|\u05da\u05bc|\u05db\u05bc|\u05dc\u05bc|",
      "\u05de\u05bc||\u05e0\u05bc|\u05e1\u05bc||\u05e3\u05bc|\u05e4\u05bc||\u05e6\u05bc",
      "\u05e7\u05bc|\u05e8\u05bc|\u05e9\u05bc|\u05ea\u05bc|\u05d5\u05b9|\u05d1\u05bf",
      "\u05db\u05bf|\u05e4\u05bf|\u05d0\u05dc|\u0671|\u0671|\u067b|\u067b|\u067b|\u067b|\u067e",
      "\u067e|\u067e|\u067e|\u0680|\u0680|\u0680|\u0680|\u067a|\u067a|\u067a|\u067a|\u067f",
      "\u067f|\u067f|\u067f|\u0679|\u0679|\u0679|\u0679|\u06a4|\u06a4|\u06a4|\u06a4|\u06a6",
      "\u06a6|\u06a6|\u06a6|\u0684|\u0684|\u0684|\u0684|\u0683|\u0683|\u0683|\u0683|\u0686",
      "\u0686|\u0686|\u0686|\u0687|\u0687|\u0687|\u0687|\u068d|\u068d|\u068c|\u068c|\u068e",
      "\u068e|\u0688|\u0688|\u0698|\u0698|\u0691|\u0691|\u06a9|\u06a9|\u06a9|\u06a9|\u06af",
      "\u06af|\u06af|\u06af|\u06b3|\u06b3|\u06b3|\u06b3|\u06b1|\u06b1|\u06b1|\u06b1|\u06ba",
      "\u06ba|\u06bb|\u06bb|\u06bb|\u06bb|\u06c0|\u06c0|\u06c1|\u06c1|\u06c1|\u06c1|\u06be",
      "\u06be|\u06be|\u06be|\u06d2|\u06d2|\u06d3|\u06d3"]⟩,
  ⟨0xFBD3, [
      "\u06ad|\u06ad|\u06ad|\u06ad|\u06c7|\u06c7|\u06c6|\u06c6|\u06c8|\u06c8|\u06c7\u0674",
      "\u06cb|\u06cb|\u06c5|\u06c5|\u06c9|\u06c9|\u06d0|\u06d0|\u06d0|\u06d0|\u0649|\u0649",
      "\u0626\u0627|\u0626\u0627|\u0626\u06d5|\u0626\u06d5|\u0626\u0648|\u0626\u0648",
      "\u0626\u06c7|\u0626\u06c7|\u0626\u06c6|\u0626\u06c6|\u0626\u06c8|\u0626\u06c8",
      "\u0626\u06d0|\u0626\u06d0|\u0626\u06d0|\u0626\u0649|\u0626\u0649|\u0626\u0649|\u06cc",
      "\u06cc|\u06cc|\u06cc|\u0626\u062c|\u0626\u062d|\u0626\u0645|\u0626\u0649|\u0626\u064a",
      "\u0628\u062c|\u0628\u062d|\u0628\u062e|\u0628\u0645|\u0628\u0649|\u0628\u064a",
      "\u062a\u062c|\u062a\u062d|\u062a\u062e|\u062a\u0645|\u062a\u0649|\u062a\u064a",
      "\u062b\u062c|\u062b\u0645|\u062b\u0649|\u062b\u064a|\u062c\u062d|\u062c\u0645",
      "\u062d\u062c|\u062d\u0645|\u062e\u062c|\u062e\u062d|\u062e\u0645|\u0633\u062c",
      "\u0633\u062d|\u0633\u062e|\u0633\u0645|\u0635\u062d|\u0635\u0645|\u0636\u062c",
      "\u0636\u062d|\u0636\u062e|\u0636\u0645|\u0637\u062d|\u0637\u0645|\u0638\u0645",
      "\u0639\u062c|\u0639\u0645|\u063a\u062c|\u063a\u0645|\u0641\u062c|\u0641\u062d",
      "\u0641\u062e|\u0641\u0645|\u0641\u0649|\u0641\u064a|\u0642\u062d|\u0642\u0645",
      "\u0642\u0649|\u0642\u064a|\u0643\u0627|\u0643\u062c|\u0643\u062d|\u0643\u062e",
      "\u0643\u0644|\u0643\u0645|\u0643\u0649|\u0643\u064a|\u0644\u062c|\u0644\u062d",
      "\u0644\u062e|\u0644\u0645|\u0644\u0649|\u0644\u064a|\u0645\u062c|\u0645\u062d",
      "\u0645\u062e|\u0645\u0645|\u0645\u0649|\u0645\u064a|\u0646\u062c|\u0646\u062d",
      "\u0646\u062e|\u0646\u0645|\u0646\u0649|\u0646\u064a|\u0647\u062c|\u0647\u0645",
      "\u0647\u0649|\u0647\u064a|\u064a\u062c|\u064a\u062d|\u064a\u062e|\u064a\u0645",
      "\u064a\u0649|\u064a\u064a|\u0630\u0670|\u0631\u0670|\u0649\u0670| \u064c\u0651",
      " \u064d\u0651| \u064e\u0651| \u064f\u0651| \u0650\u0651| \u0651\u0670|\u0626\u0631",
      "\u0626\u0632|\u0626\u0645|\u0626\u0646|\u0626\u0649|\u0626\u064a|\u0628\u0631",
      "\u0628\u0632|\u0628\u0645|\u0628\u0646|\u0628\u0649|\u0628\u064a|\u062a\u0631",
      "\u062a\u0632|\u062a\u0645|\u062a\u0646|\u062a\u0649|\u062a\u064a|\u062b\u0631",
      "\u062b\u0632|\u062b\u0645|\u062b\u0646|\u062b\u0649|\u062b\u064a|\u0641\u0649",
      "\u0641\u064a|\u0642\u0649|\u0642\u064a|\u0643\u0627|\u0643\u0644|\u0643\u0645",
      "\u0643\u0649|\u0643\u064a|\u0644\u0645|\u0644\u0649|\u0644\u064a|\u0645\u0627",
      "\u0645\u0645|\u0646\u0631|\u0646\u0632|\u0646\u0645|\u0646\u0646|\u0646\u0649",
      "\u0646\u064a|\u0649\u0670|\u064a\u0631|\u064a\u0632|\u064a\u0645|\u064a\u0646",
      "\u064a\u0649|\u064a\u064a|\u0626\u062c|\u0626\u062d|\u0626\u062e|\u0626\u0645",
      "\u0626\u0647|\u0628\u062c|\u0628\u062d|\u0628\u062e|\u0628\u0645|\u0628\u0647",
      "\u062a\u062c|\u062a\u062d|\u062a\u062e|\u062a\u0645|\u062a\u0647|\u062b\u0645",
      "\u062c\u062d|\u062c\u0645|\u062d\u062c|\u062d\u0645|\u062e\u062c|\u062e\u0645",
      "\u0633\u062c|\u0633\u062d|\u0633\u062e|\u0633\u0645|\u0635\u062d|\u0635\u062e",
      "\u0635\u0645|\u0636\u062c|\u0636\u062d|\u0636\u062e|\u0636\u0645|\u0637\u062d",
      "\u0638\u0645|\u0639\u062c|\u0639\u0645|\u063a\u062c|\u063a\u0645|\u0641\u062c",
      "\u0641\u062d|\u0641\u062e|\u0641\u0645|\u0642\u062d|\u0642\u0645|\u0643\u062c",
      "\u0643\u062d|\u0643\u062e|\u0643\u0644|\u0643\u0645|\u0644\u062c|\u0644\u062d",
      "\u0644\u062e|\u0644\u0645|\u0644\u0647|\u0645\u062c|\u0645\u062d|\u0645\u062e",
      "\u0645\u0645|\u0646\u062c|\u0646\u062d|\u0646\u062e|\u0646\u0645|\u0646\u0647",
      "\u0647\u062c|\u0647\u0645|\u0647\u0670|\u064a\u062c|\u064a\u062d|\u064a\u062e",
      "\u064a\u0645|\u064a\u0647|\u0626\u0645|\u0626\u0647|\u0628\u0645|\u0628\u0647",
      "\u062a\u0645|\u062a\u0647|\u062b\u0645|\u062b\u0647|\u0633\u0645|\u0633\u0647",
      "\u0634\u0645|\u0634\u0647|\u0643\u0644|\u0643\u0645|\u0644\u0645|\u0646\u0645",
      "\u0646\u0647|\u064a\u0645|\u064a\u0647|\u0640\u064e\u0651|\u0640\u064f\u0651",
      "\u0640\u0650\u0651|\u0637\u0649|\u0637\u064a|\u0639\u0649|\u0639\u064a|\u063a\u0649",
      "\u063a\u064a|\u0633\u0649|\u0633\u064a|\u0634\u0649|\u0634\u064a|\u062d\u0649",
      "\u062d\u064a|\u062c\u0649|\u062c\u064a|\u062e\u0649|\u062e\u064a|\u0635\u0649",
      "\u0635\u064a|\u0636\u0649|\u0636\u064a|\u0634\u062c|\u0634\u062d|\u0634\u062e",
      "\u0634\u0645|\u0634\u0631|\u0633\u0631|\u0635\u0631|\u0636\u0631|\u0637\u0649",
      "\u0637\u064a|\u0639\u0649|\u0639\u064a|\u063a\u0649|\u063a\u064a|\u0633\u0649",
      "\u0633\u064a|\u0634\u0649|\u0634\u064a|\u062d\u0649|\u062d\u064a|\u062c\u0649",
      "\u062c\u064a|\u062e\u0649|\u062e\u064a|\u0635\u0649|\u0635\u064a|\u0636\u0649",
      "\u0636\u064a|\u0634\u062c|\u0634\u062d|\u0634\u062e|\u0634\u0645|\u0634\u0631",
      "\u0633\u0631|\u0635\u0631|\u0636\u0631|\u0634\u062c|\u0634\u062d|\u0634\u062e",
      "\u0634\u0645|\u0633\u0647|\u0634\u0647|\u0637\u0645|\u0633\u062c|\u0633\u062d",
      "\u0633\u062e|\u0634\u062c|\u0634\u062d|\u0634\u062e|\u0637\u0645|\u0638\u0645",
      "\u0627\u064b|\u0627\u064b"]⟩,
  ⟨0xFD50, [
      "\u062a\u062c\u0645|\u062a\u062d\u062c|\u062a\u062d\u062c|\u062a\u062d\u0645",
      "\u062a\u062e\u0645|\u062a\u0645\u062c|\u062a\u0645\u062d|\u062a\u0645\u062e",
      "\u062c\u0645\u062d|\u062c\u0645\u062d|\u062d\u0645\u064a|\u062d\u0645\u0649",
      "\u0633\u062d\u062c|\u0633\u062c\u062d|\u0633\u062c\u0649|\u0633\u0645\u062d",
      "\u0633\u0645\u062d|\u0633\u0645\u062c|\u0633\u0645\u0645|\u0633\u0645\u0645",
      "\u0635\u062d\u062d|\u0635\u062d\u062d|\u0635\u0645\u0645|\u0634\u062d\u0645",
      "\u0634\u062d\u0645|\u0634\u062c\u064a|\u0634\u0645\u062e|\u0634\u0645\u062e",
      "\u0634\u0645\u0645|\u0634\u0645\u0645|\u0636\u062d\u0649|\u0636\u062e\u0645",
      "\u0636\u062e\u0645|\u0637\u0645\u062d|\u0637\u0645\u062d|\u0637\u0645\u0645",
      "\u0637\u0645\u064a|\u0639\u062c\u0645|\u0639\u0645\u0645|\u0639\u0645\u0645",
      "\u0639\u0645\u0649|\u063a\u0645\u0645|\u063a\u0645\u064a|\u063a\u0645\u0649",
      "\u0641\u062e\u0645|\u0641\u062e\u0645|\u0642\u0645\u062d|\u0642\u0645\u0645",
      "\u0644\u062d\u0645|\u0644\u062d\u064a|\u0644\u062d\u0649|\u0644\u062c\u062c",
      "\u0644\u062c\u062c|\u0644\u062e\u0645|\u0644\u062e\u0645|\u0644\u0645\u062d",
      "\u0644\u0645\u062d|\u0645\u062d\u062c|\u0645\u062d\u0645|\u0645\u062d\u064a",
      "\u0645\u062c\u062d|\u0645\u062c\u0645|\u0645\u062e\u062c|\u0645\u062e\u0645||",
      "\u0645\u062c\u062e|\u0647\u0645\u062c|\u0647\u0645\u0645|\u0646\u062d\u0645",
      "\u0646\u062d\u0649|\u0646\u062c\u0645|\u0646\u062c\u0645|\u0646\u062c\u0649",
      "\u0646\u0645\u064a|\u0646\u0645\u0649|\u064a\u0645\u0645|\u064a\u0645\u0645",
      "\u0628\u062e\u064a|\u062a\u062c\u064a|\u062a\u062c\u0649|\u062a\u062e\u064a",
      "\u062a\u062e\u0649|\u062a\u0645\u064a|\u062a\u0645\u0649|\u062c\u0645\u064a",
      "\u062c\u062d\u0649|\u062c\u0645\u0649|\u0633\u062e\u0649|\u0635\u062d\u064a",
      "\u0634\u062d\u064a|\u0636\u062d\u064a|\u0644\u062c\u064a|\u0644\u0645\u064a",
      "\u064a\u062d\u064a|\u064a\u062c\u064a|\u064a\u0645\u064a|\u0645\u0645\u064a",
      "\u0642\u0645\u064a|\u0646\u062d\u064a|\u0642\u0645\u062d|\u0644\u062d\u0645",
      "\u0639\u0645\u064a|\u0643\u0645\u064a|\u0646\u062c\u062d|\u0645\u062e\u064a",
      "\u0644\u062c\u0645|\u0643\u0645\u0645|\u0644\u062c\u0645|\u0646\u062c\u062d",
      "\u062c\u062d\u064a|\u062d\u062c\u064a|\u0645\u062c\u064a|\u0641\u0645\u064a",
      "\u0628\u062d\u064a|\u0643\u0645\u0645|\u0639\u062c\u0645|\u0635\u0645\u0645",
      "\u0633\u062e\u064a|\u0646\u062c\u064a"]⟩,
  ⟨0xFDF0, [
      "\u0635\u0644\u06d2|\u0642\u0644\u06d2|\u0627\u0644\u0644\u0647|\u0627\u0643\u0628\u0631",
      "\u0645\u062d\u0645\u062f|\u0635\u0644\u0639\u0645|\u0631\u0633\u0648\u0644",
      "\u0639\u0644\u064a\u0647|\u0648\u0633\u0644\u0645|\u0635\u0644\u0649",
      "\u0635\u0644\u0649 \u0627\u0644\u0644\u0647 \u0639\u0644\u064a\u0647 \u0648\u0633\u0644\u0645",
      "\u062c\u0644 \u062c\u0644\u0627\u0644\u0647|\u0631\u06cc\u0627\u0644"]⟩,
  ⟨0xFE10, [",|、||:|;|!|?|〖|〗"]⟩, ⟨0xFE31, ["—|–|_|_|(|)|\x7b|\x7d|〔|〕|【|】|《|》|〈|〉"]⟩,
  ⟨0xFE47, [
      "[|]| \u0305| \u0305| \u0305| \u0305|_|_|_|,|、|||;|:|?|!|—|(|)|\x7b|\x7d|〔|〕|#|&|*|+|-|<",
      ">|=||\\|$|%|@"]⟩,
  ⟨0xFE70, [
      " \u064b|\u0640\u064b| \u064c|| \u064d|| \u064e|\u0640\u064e| \u064f|\u0640\u064f| \u0650",
      "\u0640\u0650| \u0651|\u0640\u0651| \u0652|\u0640\u0652|\u0621|\u0622|\u0622|\u0623",
      "\u0623|\u0624|\u0624|\u0625|\u0625|\u0626|\u0626|\u0626|\u0626|\u0627|\u0627|\u0628",
      "\u0628|\u0628|\u0628|\u0629|\u0629|\u062a|\u062a|\u062a|\u062a|\u062b|\u062b|\u062b",
      "\u062b|\u062c|\u062c|\u062c|\u062c|\u062d|\u062d|\u062d|\u062d|\u062e|\u062e|\u062e",
      "\u062e|\u062f|\u062f|\u0630|\u0630|\u0631|\u0631|\u0632|\u0632|\u0633|\u0633|\u0633",
      "\u0633|\u0634|\u0634|\u0634|\u0634|\u0635|\u0635|\u0635|\u0635|\u0636|\u0636|\u0636",
      "\u0636|\u0637|\u0637|\u0637|\u0637|\u0638|\u0638|\u0638|\u0638|\u0639|\u0639|\u0639",
      "\u0639|\u063a|\u063a|\u063a|\u063a|\u0641|\u0641|\u0641|\u0641|\u0642|\u0642|\u0642",
      "\u0642|\u0643|\u0643|\u0643|\u0643|\u0644|\u0644|\u0644|\u0644|\u0645|\u0645|\u0645",
      "\u0645|\u0646|\u0646|\u0646|\u0646|\u0647|\u0647|\u0647|\u0647|\u0648|\u0648|\u0649",
      "\u0649|\u064a|\u064a|\u064a|\u064a|\u0644\u0622|\u0644\u0622|\u0644\u0623|\u0644\u0623",
      "\u0644\u0625|\u0644\u0625|\u0644\u0627|\u0644\u0627"]⟩,
  ⟨0xFF5F, ["⦅|⦆|.|「|」|、|・|ヲ|ァ|ィ|ゥ|ェ|ォ|ャ|ュ|ョ|ッ|\u30fc|ア|イ|ウ|エ|オ|カ|キ|ク|ケ|コ|サ|シ|ス|セ|ソ|タ|チ|ツ|テ|ト"]⟩,
  ⟨0xFF8B, ["ヒ|フ|ヘ|ホ"]⟩, ⟨0xFF94, ["ヤ|ユ"]⟩,
  ⟨0xFF9C, ["ワ|ン|\u3099|\u309a||\u1100|\u1101|\u11aa|\u1102|\u11ac|\u11ad"]⟩,
  ⟨0xFFB0, ["\u111a||||\u1121"]⟩, ⟨0xFFE0, ["¢|£|¬| \u0304|¦|¥|₩||│"]⟩, ⟨0xFFED, ["■|○"]⟩,
  ⟨0x10594, ["𐖻|𐖼"]⟩,
  ⟨0x10781, [
      "\u02d0|\u02d1|æ|ʙ|ɓ||ʣ|ꭦ|ʥ|ʤ|ɖ|ɗ|ᶑ|ɘ|ɞ|ʩ|ɤ|ɢ|ɠ|ʛ|ħ|ʜ|ɧ|ʄ|ʪ|ʫ|ɬ|𝼄|ꞎ|ɮ|𝼅|ʎ|𝼆|ø|ɶ|ɷ|q|ɺ|𝼈|ɽ",
      "ɾ|ʀ|ʨ|ʦ|ꭧ|ʧ|ʈ|ⱱ||ʏ|ʡ|ʢ|ʘ||||𝼊|𝼞"]⟩,
  ⟨0x1D15E, ["𝅗𝅥|𝅘𝅥|𝅘𝅥𝅮|𝅘𝅥𝅯|𝅘𝅥𝅰|𝅘𝅥𝅱|𝅘𝅥𝅲"]⟩, ⟨0x1D1BB, ["𝆹𝅥|𝆺𝅥|𝆹𝅥𝅮|𝆺𝅥𝅮|𝆹𝅥𝅯|𝆺𝅥𝅯"]⟩,
  ⟨0x1D49C, ["a||c|d|||g|||j|k"]⟩, ⟨0x1D4BB, ["f||h"]⟩, ⟨0x1D504, ["a|b"]⟩, ⟨0x1D538, ["a|b"]⟩,
  ⟨0x1D546, ["o"]⟩, ⟨0x1D6A4, ["ı|ȷ"]⟩, ⟨0x1D6B9, ["θ"]⟩, ⟨0x1D6C1, ["∇"]⟩, ⟨0x1D6D3, ["σ"]⟩,
  ⟨0x1D6DB, ["∂|ε|θ|κ|φ|ρ|π"]⟩, ⟨0x1D6F3, ["θ"]⟩, ⟨0x1D6FB, ["∇"]⟩, ⟨0x1D70D, ["σ"]⟩,
  ⟨0x1D715, ["∂|ε|θ|κ|φ|ρ|π"]⟩, ⟨0x1D72D, ["θ"]⟩, ⟨0x1D735, ["∇"]⟩, ⟨0x1D747, ["σ"]⟩,
  ⟨0x1D74F, ["∂|ε|θ|κ|φ|ρ|π"]⟩, ⟨0x1D767, ["θ"]⟩, ⟨0x1D76F, ["∇"]⟩, ⟨0x1D781, ["σ"]⟩,
  ⟨0x1D789, ["∂|ε|θ|κ|φ|ρ|π"]⟩, ⟨0x1D7A1, ["θ"]⟩, ⟨0x1D7A9, ["∇"]⟩, ⟨0x1D7BB, ["σ"]⟩,
  ⟨0x1D7C3, ["∂|ε|θ|κ|φ|ρ|π|ϝ|ϝ"]⟩, ⟨0x1E047, ["ы|э|ю|ꚉ|ә|і|ј|ө|ү|ӏ"]⟩, ⟨0x1E05A, ["к|л|о|п|с"]⟩,
  ⟨0x1E065, ["ъ|ы|ґ|і|ѕ|џ|ҫ|ꙑ|ұ"]⟩,
  ⟨0x1EE00, ["\u0627|\u0628|\u062c|\u062f||\u0648|\u0632|\u062d|\u0637|\u064a"]⟩,
  ⟨0x1EE0E, [
      "\u0633|\u0639|\u0641|\u0635|\u0642|\u0631|\u0634|\u062a|\u062b|\u062e|\u0630|\u0636",
      "\u0638|\u063a|\u066e|\u06ba|\u06a1|\u066f||\u0628|\u062c||\u0647|||\u062d||\u064a"]⟩,
  ⟨0x1EE2E, ["\u0633|\u0639|\u0641|\u0635|\u0642||\u0634|\u062a|\u062b|\u062e||\u0636||\u063a"]⟩,
  ⟨0x1EE42, ["\u062c"]⟩,
  ⟨0x1EE47, [
      "\u062d||\u064a||\u0644||\u0646|\u0633|\u0639||\u0635|\u0642||\u0634|||\u062e||\u0636|",
      "\u063a||\u06ba||\u066f||\u0628|\u062c||\u0647|||\u062d|\u0637|\u064a|\u0643||\u0645",
      "\u0646|\u0633|\u0639|\u0641|\u0635|\u0642||\u0634|\u062a|\u062b|\u062e||\u0636|\u0638",
      "\u063a|\u066e||\u06a1||\u0627|\u0628|\u062c|\u062f|\u0647|\u0648|\u0632|\u062d|\u0637",
      "\u064a"]⟩,
  ⟨0x1EE8E, [
      "\u0633|\u0639|\u0641|\u0635|\u0642|\u0631|\u0634|\u062a|\u062b|\u062e|\u0630|\u0636",
      "\u0638|\u063a"]⟩,
  ⟨0x1EEA1, ["\u0628|\u062c|\u062f||\u0648|\u0632|\u062d|\u0637|\u064a"]⟩,
  ⟨0x1EEAE, [
      "\u0633|\u0639|\u0641|\u0635|\u0642|\u0631|\u0634|\u062a|\u062b|\u062e|\u0630|\u0636",
      "\u0638|\u063a"]⟩,
  ⟨0x1F101, ["0,|1,|2,|3,|4,|5,|6,|7,|8,|9,"]⟩,
  ⟨0x1F110, [
      "(a)|(b)|(c)|(d)|(e)|(f)|(g)|(h)|(i)|(j)|(k)|(l)|(m)|(n)|(o)|(p)|(q)|(r)|(s)|(t)|(u)|(v)",
      "(w)|(x)|(y)|(z)|〔s〕|c|r|cd|wz"]⟩,
  ⟨0x1F14A, ["hv|mv|sd|ss|ppv|wc"]⟩, ⟨0x1F16A, ["mc|md|mr"]⟩, ⟨0x1F190, ["dj"]⟩,
  ⟨0x1F200, ["ほか|ココ|サ"]⟩,
  ⟨0x1F210, [
      "手|字|双|デ|二|多|解|天|交|映|無|料|前|後|再|新|初|終|生|販|声|吹|演|投|捕|一|三|遊|左|中|右|指|走|打|禁|空|合|満|有|月|申|割|営|配"]⟩,
  ⟨0x1F240, ["〔本〕|〔三〕|〔二〕|〔安〕|〔点〕|〔打〕|〔盗〕|〔勝〕|〔敗〕"]⟩, ⟨0x1F250, ["得|可"]⟩,
  ⟨0x2F800, [
      "丽|丸|乁|𠄢|你|侮|侻|倂|偺|備|僧|像|㒞|𠘺|免|兔|兤|具|𠔜|㒹|內|再|𠕋|冗|冤|仌|冬|况|𩇟|凵|刃|㓟|刻|剆|割|剷|㔕|勇|勉|勤|勺|包|匆|北",
      "卉|卑|博|即|卽|卿|卿|卿|𠨬|灰|及|叟|𠭣|叫|叱|吆|咞|吸|呈|周|咢|哶|唐|啓|啣|善|善|喙|喫|喳|嗂|圖|嘆|圗|噑|噴|切|壮|城|埴|堍|型|堲|報",
      "墬|𡓤|売|壷|夆|多|夢|奢|𡚨|𡛪|姬|娛|娧|姘|婦|㛮|㛼|嬈|嬾|嬾|𡧈|寃|寘|寧|寳|𡬘|寿|将|当|尢|㞁|屠|屮|峀|岍|𡷤|嵃|𡷦|嵮|嵫|嵼|巡|巢|㠯",
      "巽|帨|帽|幩|㡢|𢆃|㡼|庰|庳|庶|廊|𪎒|廾|𢌱|𢌱|舁|弢|弢|㣇|𣊸|𦇚|形|彫|㣣|徚|忍|志|忹|悁|㤺|㤜|悔|𢛔|惇|慈|慌|慎|慌|慺|憎|憲|憤|憯|懞",
      "懲|懶|成|戛|扝|抱|拔|捐|𢬌|挽|拼|捨|掃|揤|𢯱|搢|揅|掩|㨮|摩|摾|撝|摷|㩬|敏|敬|𣀊|旣|書|晉|㬙|暑|㬈|㫤|冒|冕|最|暜|肭|䏙|朗|望|朡|杞",
      "杓|𣏃|㭉|柺|枅|桒|梅|𣑭|梎|栟|椔|㮝|楂|榣|槪|檨|𣚣|櫛|㰘|次|𣢧|歔|㱎|歲|殟|殺|殻|𣪍|𡴋|𣫺|汎|𣲼|沿|泍|汧|洖|派|海|流|浩|浸|涅|𣴞|洴",
      "港|湮|㴳|滋|滇|𣻑|淹|潮|𣽞|𣾎|濆|瀹|瀞|瀛|㶖|灊|災|灷|炭|𠔥|煅|𤉣|熜|𤎫|爨|爵|牐|𤘈|犀|犕|𤜵|𤠔|獺|王|㺬|玥|㺸|㺸|瑇|瑜|瑱|璅|瓊|㼛",
      "甤|𤰶|甾|𤲒|異|𢆟|瘐|𤾡|𤾸|𥁄|㿼|䀈|直|𥃳|𥃲|𥄙|𥄳|眞|真|真|睊|䀹|瞋|䁆|䂖|𥐝|硎|碌|磌|䃣|𥘦|祖|𥚚|𥛅|福|秫|䄯|穀|穊|穏|𥥼|𥪧|𥪧|竮",
      "䈂|𥮫|篆|築|䈧|𥲀|糒|䊠|糨|糣|紀|𥾆|絣|䌁|緇|縂|繅|䌴|𦈨|𦉇|䍙|𦋙|罺|𦌾|羕|翺|者|𦓚|𦔣|聠|𦖨|聰|𣍟|䏕|育|脃|䐋|脾|媵|𦞧|𦞵|𣎓|𣎜|舁",
      "舄|辞|䑫|芑|芋|芝|劳|花|芳|芽|苦|𦬼|若|茝|荣|莭|茣|莽|菧|著|荓|菊|菌|菜|𦰶|𦵫|𦳕|䔫|蓱|蓳|蔖|𧏊|蕤|𦼬|䕝|䕡|𦾱|𧃒|䕫|虐|虜|虧|虩|蚩",
      "蚈|蜎|蛢|蝹|蜨|蝫|螆|䗗|蟡|蠁|䗹|衠|衣|𧙧|裗|裞|䘵|裺|㒻|𧢮|𧥦|䚾|䛇|誠|諭|變|豕|𧲨|貫|賁|贛|起|𧼯|𠠄|跋|趼|跰|𠣞|軔|輸|𨗒|𨗭|邔|郱",
      "鄑|𨜮|鄛|鈸|鋗|鋘|鉼|鏹|鐕|𨯺|開|䦕|閷|𨵷|䧦|雃|嶲|霣|𩅅|𩈚|䩮|䩶|韠|𩐊|䪲|𩒖|頋|頋|頩|𩖶|飢|䬳|餩|馧|駂|駾|䯎|𩬰|鬒|鱀|鳽|䳎|䳭|鵧",
      "𪃎|䳸|𪄅|𪈎|𪊑|麻|䵖|黹|黾|鼅|鼏|鼖|鼻|𪘀"]⟩]

/-- The characters that stay. Characters that are left out or replaced lie in the runs around
them. -/
def usableRuns : List (Nat × Nat) := [
  (0x0, 0x7F), (0xA1, 0x377), (0x37B, 0x37D), (0x390, 0x390), (0x3AC, 0x52F), (0x559, 0x58A),
  (0x58D, 0x58F), (0x591, 0x5C7), (0x5D0, 0x5EA), (0x5EF, 0x5F4), (0x606, 0x61B), (0x61D, 0x6DC),
  (0x6DE, 0x70D), (0x710, 0x74A), (0x74D, 0x7B1), (0x7C0, 0x7FA), (0x7FD, 0x82D), (0x830, 0x83E),
  (0x840, 0x85B), (0x85E, 0x85E), (0x860, 0x86A), (0x870, 0x88F), (0x897, 0x8E1), (0x8E3, 0x983),
  (0x985, 0x98C), (0x98F, 0x990), (0x993, 0x9A8), (0x9AA, 0x9B0), (0x9B2, 0x9B2), (0x9B6, 0x9B9),
  (0x9BC, 0x9C4), (0x9C7, 0x9C8), (0x9CB, 0x9CE), (0x9D7, 0x9D7), (0x9E0, 0x9E3), (0x9E6, 0x9FE),
  (0xA01, 0xA03), (0xA05, 0xA0A), (0xA0F, 0xA10), (0xA13, 0xA28), (0xA2A, 0xA30), (0xA32, 0xA32),
  (0xA35, 0xA35), (0xA38, 0xA39), (0xA3C, 0xA3C), (0xA3E, 0xA42), (0xA47, 0xA48), (0xA4B, 0xA4D),
  (0xA51, 0xA51), (0xA5C, 0xA5C), (0xA66, 0xA76), (0xA81, 0xA83), (0xA85, 0xA8D), (0xA8F, 0xA91),
  (0xA93, 0xAA8), (0xAAA, 0xAB0), (0xAB2, 0xAB3), (0xAB5, 0xAB9), (0xABC, 0xAC5), (0xAC7, 0xAC9),
  (0xACB, 0xACD), (0xAD0, 0xAD0), (0xAE0, 0xAE3), (0xAE6, 0xAF1), (0xAF9, 0xAFF), (0xB01, 0xB03),
  (0xB05, 0xB0C), (0xB0F, 0xB10), (0xB13, 0xB28), (0xB2A, 0xB30), (0xB32, 0xB33), (0xB35, 0xB39),
  (0xB3C, 0xB44), (0xB47, 0xB48), (0xB4B, 0xB4D), (0xB55, 0xB57), (0xB5F, 0xB63), (0xB66, 0xB77),
  (0xB82, 0xB83), (0xB85, 0xB8A), (0xB8E, 0xB90), (0xB92, 0xB95), (0xB99, 0xB9A), (0xB9C, 0xB9C),
  (0xB9E, 0xB9F), (0xBA3, 0xBA4), (0xBA8, 0xBAA), (0xBAE, 0xBB9), (0xBBE, 0xBC2), (0xBC6, 0xBC8),
  (0xBCA, 0xBCD), (0xBD0, 0xBD0), (0xBD7, 0xBD7), (0xBE6, 0xBFA), (0xC00, 0xC0C), (0xC0E, 0xC10),
  (0xC12, 0xC28), (0xC2A, 0xC39), (0xC3C, 0xC44), (0xC46, 0xC48), (0xC4A, 0xC4D), (0xC55, 0xC56),
  (0xC58, 0xC5A), (0xC5C, 0xC5D), (0xC60, 0xC63), (0xC66, 0xC6F), (0xC77, 0xC8C), (0xC8E, 0xC90),
  (0xC92, 0xCA8), (0xCAA, 0xCB3), (0xCB5, 0xCB9), (0xCBC, 0xCC4), (0xCC6, 0xCC8), (0xCCA, 0xCCD),
  (0xCD5, 0xCD6), (0xCDC, 0xCDE), (0xCE0, 0xCE3), (0xCE6, 0xCEF), (0xCF1, 0xCF3), (0xD00, 0xD0C),
  (0xD0E, 0xD10), (0xD12, 0xD44), (0xD46, 0xD48), (0xD4A, 0xD4F), (0xD54, 0xD63), (0xD66, 0xD7F),
  (0xD81, 0xD83), (0xD85, 0xD96), (0xD9A, 0xDB1), (0xDB3, 0xDBB), (0xDBD, 0xDBD), (0xDC0, 0xDC6),
  (0xDCA, 0xDCA), (0xDCF, 0xDD4), (0xDD6, 0xDD6), (0xDD8, 0xDDF), (0xDE6, 0xDEF), (0xDF2, 0xDF4),
  (0xE01, 0xE3A), (0xE3F, 0xE5B), (0xE81, 0xE82), (0xE84, 0xE84), (0xE86, 0xE8A), (0xE8C, 0xEA3),
  (0xEA5, 0xEA5), (0xEA7, 0xEBD), (0xEC0, 0xEC4), (0xEC6, 0xEC6), (0xEC8, 0xECE), (0xED0, 0xED9),
  (0xEDE, 0xEDF), (0xF00, 0xF47), (0xF49, 0xF6C), (0xF71, 0xF97), (0xF99, 0xFBC), (0xFBE, 0xFCC),
  (0xFCE, 0xFDA), (0x1000, 0x109F), (0x10D0, 0x1248), (0x124A, 0x124D), (0x1250, 0x1256),
  (0x1258, 0x1258), (0x125A, 0x125D), (0x1260, 0x1288), (0x128A, 0x128D), (0x1290, 0x12B0),
  (0x12B2, 0x12B5), (0x12B8, 0x12BE), (0x12C0, 0x12C0), (0x12C2, 0x12C5), (0x12C8, 0x12D6),
  (0x12D8, 0x1310), (0x1312, 0x1315), (0x1318, 0x135A), (0x135D, 0x137C), (0x1380, 0x1399),
  (0x13A0, 0x13F5), (0x1400, 0x167F), (0x1681, 0x169C), (0x16A0, 0x16F8), (0x1700, 0x1715),
  (0x171F, 0x1736), (0x1740, 0x1753), (0x1760, 0x176C), (0x176E, 0x1770), (0x1772, 0x1773),
  (0x1780, 0x17DD), (0x17E0, 0x17E9), (0x17F0, 0x17F9), (0x1800, 0x1819), (0x1820, 0x1878),
  (0x1880, 0x18AA), (0x18B0, 0x18F5), (0x1900, 0x191E), (0x1920, 0x192B), (0x1930, 0x193B),
  (0x1940, 0x1940), (0x1944, 0x196D), (0x1970, 0x1974), (0x1980, 0x19AB), (0x19B0, 0x19C9),
  (0x19D0, 0x19DA), (0x19DE, 0x1A1B), (0x1A1E, 0x1A5E), (0x1A60, 0x1A7C), (0x1A7F, 0x1A89),
  (0x1A90, 0x1A99), (0x1AA0, 0x1AAD), (0x1AB0, 0x1ADD), (0x1AE0, 0x1AEB), (0x1B00, 0x1B4C),
  (0x1B4E, 0x1BF3), (0x1BFC, 0x1C37), (0x1C3B, 0x1C49), (0x1C4D, 0x1C8A), (0x1CC0, 0x1CC7),
  (0x1CD0, 0x1CFA), (0x1D00, 0x1F15), (0x1F20, 0x1F45), (0x1F50, 0x1F57), (0x1F60, 0x1F7C),
  (0x1FB0, 0x1FB1), (0x1FB6, 0x1FB6), (0x1FC6, 0x1FD2), (0x1FD6, 0x1FD7), (0x1FE0, 0x1FE7),
  (0x1FF6, 0x1FF6), (0x200C, 0x200D), (0x2010, 0x2023), (0x2027, 0x2027), (0x2030, 0x205E),
  (0x20A0, 0x20C1), (0x20D0, 0x20F0), (0x2104, 0x218B), (0x2190, 0x2429), (0x2440, 0x244A),
  (0x24EB, 0x2B73), (0x2B76, 0x2CF3), (0x2CF9, 0x2D25), (0x2D27, 0x2D27), (0x2D2D, 0x2D2D),
  (0x2D30, 0x2D67), (0x2D70, 0x2D70), (0x2D7F, 0x2D96), (0x2DA0, 0x2DA6), (0x2DA8, 0x2DAE),
  (0x2DB0, 0x2DB6), (0x2DB8, 0x2DBE), (0x2DC0, 0x2DC6), (0x2DC8, 0x2DCE), (0x2DD0, 0x2DD6),
  (0x2DD8, 0x2DDE), (0x2DE0, 0x2E5D), (0x2E80, 0x2E99), (0x2E9B, 0x2EF2), (0x3001, 0x303F),
  (0x3041, 0x3096), (0x3099, 0x30FE), (0x3105, 0x312F), (0x3190, 0x31E5), (0x31F0, 0x31FF),
  (0x3248, 0x327F), (0x3400, 0xA48C), (0xA490, 0xA4C6), (0xA4D0, 0xA62B), (0xA641, 0xA6F7),
  (0xA700, 0xA7DB), (0xA7F6, 0xA82C), (0xA830, 0xA839), (0xA840, 0xA877), (0xA880, 0xA8C5),
  (0xA8CE, 0xA8D9), (0xA8E0, 0xA953), (0xA95F, 0xA97C), (0xA980, 0xA9CD), (0xA9CF, 0xA9D9),
  (0xA9DE, 0xA9FE), (0xAA00, 0xAA36), (0xAA40, 0xAA4D), (0xAA50, 0xAA59), (0xAA5C, 0xAAC2),
  (0xAADB, 0xAAF6), (0xAB01, 0xAB06), (0xAB09, 0xAB0E), (0xAB11, 0xAB16), (0xAB20, 0xAB26),
  (0xAB28, 0xAB2E), (0xAB30, 0xAB6B), (0xABC0, 0xABED), (0xABF0, 0xABF9), (0xAC00, 0xD7A3),
  (0xD7B0, 0xD7C6), (0xD7CB, 0xD7FB), (0xFA0E, 0xFA29), (0xFB1E, 0xFB1E), (0xFBB2, 0xFDCF),
  (0xFDFD, 0xFDFF), (0xFE20, 0xFE2F), (0xFE45, 0xFE46), (0xFE73, 0xFE73), (0x10000, 0x1000B),
  (0x1000D, 0x10026), (0x10028, 0x1003A), (0x1003C, 0x1003D), (0x1003F, 0x1004D),
  (0x10050, 0x1005D), (0x10080, 0x100FA), (0x10100, 0x10102), (0x10107, 0x10133),
  (0x10137, 0x1018E), (0x10190, 0x1019C), (0x101A0, 0x101A0), (0x101D0, 0x101FD),
  (0x10280, 0x1029C), (0x102A0, 0x102D0), (0x102E0, 0x102FB), (0x10300, 0x10323),
  (0x1032D, 0x1034A), (0x10350, 0x1037A), (0x10380, 0x1039D), (0x1039F, 0x103C3),
  (0x103C8, 0x103D5), (0x10428, 0x1049D), (0x104A0, 0x104A9), (0x104D8, 0x104FB),
  (0x10500, 0x10527), (0x10530, 0x10563), (0x1056F, 0x1056F), (0x10597, 0x105A1),
  (0x105A3, 0x105B1), (0x105B3, 0x105B9), (0x105BB, 0x105BC), (0x105C0, 0x105F3),
  (0x10600, 0x10736), (0x10740, 0x10755), (0x10760, 0x10767), (0x10780, 0x10780),
  (0x10800, 0x10805), (0x10808, 0x10808), (0x1080A, 0x10835), (0x10837, 0x10838),
  (0x1083C, 0x1083C), (0x1083F, 0x10855), (0x10857, 0x1089E), (0x108A7, 0x108AF),
  (0x108E0, 0x108F2), (0x108F4, 0x108F5), (0x108FB, 0x1091B), (0x1091F, 0x10939),
  (0x1093F, 0x10959), (0x10980, 0x109B7), (0x109BC, 0x109CF), (0x109D2, 0x10A03),
  (0x10A05, 0x10A06), (0x10A0C, 0x10A13), (0x10A15, 0x10A17), (0x10A19, 0x10A35),
  (0x10A38, 0x10A3A), (0x10A3F, 0x10A48), (0x10A50, 0x10A58), (0x10A60, 0x10A9F),
  (0x10AC0, 0x10AE6), (0x10AEB, 0x10AF6), (0x10B00, 0x10B35), (0x10B39, 0x10B55),
  (0x10B58, 0x10B72), (0x10B78, 0x10B91), (0x10B99, 0x10B9C), (0x10BA9, 0x10BAF),
  (0x10C00, 0x10C48), (0x10CC0, 0x10CF2), (0x10CFA, 0x10D27), (0x10D30, 0x10D39),
  (0x10D40, 0x10D4F), (0x10D69, 0x10D85), (0x10D8E, 0x10D8F), (0x10E60, 0x10E7E),
  (0x10E80, 0x10EA9), (0x10EAB, 0x10EAD), (0x10EB0, 0x10EB1), (0x10EC2, 0x10EC7),
  (0x10ED0, 0x10ED8), (0x10EFA, 0x10F27), (0x10F30, 0x10F59), (0x10F70, 0x10F89),
  (0x10FB0, 0x10FCB), (0x10FE0, 0x10FF6), (0x11000, 0x1104D), (0x11052, 0x11075),
  (0x1107F, 0x110BC), (0x110BE, 0x110C2), (0x110D0, 0x110E8), (0x110F0, 0x110F9),
  (0x11100, 0x11134), (0x11136, 0x11147), (0x11150, 0x11176), (0x11180, 0x111DF),
  (0x111E1, 0x111F4), (0x11200, 0x11211), (0x11213, 0x11241), (0x11280, 0x11286),
  (0x11288, 0x11288), (0x1128A, 0x1128D), (0x1128F, 0x1129D), (0x1129F, 0x112A9),
  (0x112B0, 0x112EA), (0x112F0, 0x112F9), (0x11300, 0x11303), (0x11305, 0x1130C),
  (0x1130F, 0x11310), (0x11313, 0x11328), (0x1132A, 0x11330), (0x11332, 0x11333),
  (0x11335, 0x11339), (0x1133B, 0x11344), (0x11347, 0x11348), (0x1134B, 0x1134D),
  (0x11350, 0x11350), (0x11357, 0x11357), (0x1135D, 0x11363), (0x11366, 0x1136C),
  (0x11370, 0x11374), (0x11380, 0x11389), (0x1138B, 0x1138B), (0x1138E, 0x1138E),
  (0x11390, 0x113B5), (0x113B7, 0x113C0), (0x113C2, 0x113C2), (0x113C5, 0x113C5),
  (0x113C7, 0x113CA), (0x113CC, 0x113D5), (0x113D7, 0x113D8), (0x113E1, 0x113E2),
  (0x11400, 0x1145B), (0x1145D, 0x11461), (0x11480, 0x114C7), (0x114D0, 0x114D9),
  (0x11580, 0x115B5), (0x115B8, 0x115DD), (0x11600, 0x11644), (0x11650, 0x11659),
  (0x11660, 0x1166C), (0x11680, 0x116B9), (0x116C0, 0x116C9), (0x116D0, 0x116E3),
  (0x11700, 0x1171A), (0x1171D, 0x1172B), (0x11730, 0x11746), (0x11800, 0x1183B),
  (0x118C0, 0x118F2), (0x118FF, 0x11906), (0x11909, 0x11909), (0x1190C, 0x11913),
  (0x11915, 0x11916), (0x11918, 0x11935), (0x11937, 0x11938), (0x1193B, 0x11946),
  (0x11950, 0x11959), (0x119A0, 0x119A7), (0x119AA, 0x119D7), (0x119DA, 0x119E4),
  (0x11A00, 0x11A47), (0x11A50, 0x11AA2), (0x11AB0, 0x11AF8), (0x11B00, 0x11B09),
  (0x11B60, 0x11B67), (0x11BC0, 0x11BE1), (0x11BF0, 0x11BF9), (0x11C00, 0x11C08),
  (0x11C0A, 0x11C36), (0x11C38, 0x11C45), (0x11C50, 0x11C6C), (0x11C70, 0x11C8F),
  (0x11C92, 0x11CA7), (0x11CA9, 0x11CB6), (0x11D00, 0x11D06), (0x11D08, 0x11D09),
  (0x11D0B, 0x11D36), (0x11D3A, 0x11D3A), (0x11D3C, 0x11D3D), (0x11D3F, 0x11D47),
  (0x11D50, 0x11D59), (0x11D60, 0x11D65), (0x11D67, 0x11D68), (0x11D6A, 0x11D8E),
  (0x11D90, 0x11D91), (0x11D93, 0x11D98), (0x11DA0, 0x11DA9), (0x11DB0, 0x11DDB),
  (0x11DE0, 0x11DE9), (0x11EE0, 0x11EF8), (0x11F00, 0x11F10), (0x11F12, 0x11F3A),
  (0x11F3E, 0x11F5A), (0x11FB0, 0x11FB0), (0x11FC0, 0x11FF1), (0x11FFF, 0x12399),
  (0x12400, 0x1246E), (0x12470, 0x12474), (0x12480, 0x12543), (0x12F90, 0x12FF2),
  (0x13000, 0x1342F), (0x13440, 0x13455), (0x13460, 0x143FA), (0x14400, 0x14646),
  (0x16100, 0x16139), (0x16800, 0x16A38), (0x16A40, 0x16A5E), (0x16A60, 0x16A69),
  (0x16A6E, 0x16ABE), (0x16AC0, 0x16AC9), (0x16AD0, 0x16AED), (0x16AF0, 0x16AF5),
  (0x16B00, 0x16B45), (0x16B50, 0x16B59), (0x16B5B, 0x16B61), (0x16B63, 0x16B77),
  (0x16B7D, 0x16B8F), (0x16D40, 0x16D79), (0x16E60, 0x16E9A), (0x16EBB, 0x16ED3),
  (0x16F00, 0x16F4A), (0x16F4F, 0x16F87), (0x16F8F, 0x16F9F), (0x16FE0, 0x16FE4),
  (0x16FF0, 0x16FF6), (0x17000, 0x18CD5), (0x18CFF, 0x18D1E), (0x18D80, 0x18DF2),
  (0x1AFF0, 0x1AFF3), (0x1AFF5, 0x1AFFB), (0x1AFFD, 0x1AFFE), (0x1B000, 0x1B122),
  (0x1B132, 0x1B132), (0x1B150, 0x1B152), (0x1B155, 0x1B155), (0x1B164, 0x1B167),
  (0x1B170, 0x1B2FB), (0x1BC00, 0x1BC6A), (0x1BC70, 0x1BC7C), (0x1BC80, 0x1BC88),
  (0x1BC90, 0x1BC99), (0x1BC9C, 0x1BC9F), (0x1CC00, 0x1CCFC), (0x1CD00, 0x1CEB3),
  (0x1CEBA, 0x1CED0), (0x1CEE0, 0x1CEF0), (0x1CF00, 0x1CF2D), (0x1CF30, 0x1CF46),
  (0x1CF50, 0x1CFC3), (0x1D000, 0x1D0F5), (0x1D100, 0x1D126), (0x1D129, 0x1D1EA),
  (0x1D200, 0x1D245), (0x1D2C0, 0x1D2D3), (0x1D2E0, 0x1D2F3), (0x1D300, 0x1D356),
  (0x1D360, 0x1D378), (0x1D800, 0x1DA8B), (0x1DA9B, 0x1DA9F), (0x1DAA1, 0x1DAAF),
  (0x1DF00, 0x1DF1E), (0x1DF25, 0x1DF2A), (0x1E000, 0x1E006), (0x1E008, 0x1E018),
  (0x1E01B, 0x1E021), (0x1E023, 0x1E024), (0x1E026, 0x1E02A), (0x1E08F, 0x1E08F),
  (0x1E100, 0x1E12C), (0x1E130, 0x1E13D), (0x1E140, 0x1E149), (0x1E14E, 0x1E14F),
  (0x1E290, 0x1E2AE), (0x1E2C0, 0x1E2F9), (0x1E2FF, 0x1E2FF), (0x1E4D0, 0x1E4F9),
  (0x1E5D0, 0x1E5FA), (0x1E5FF, 0x1E5FF), (0x1E6C0, 0x1E6DE), (0x1E6E0, 0x1E6F5),
  (0x1E6FE, 0x1E6FF), (0x1E7E0, 0x1E7E6), (0x1E7E8, 0x1E7EB), (0x1E7ED, 0x1E7EE),
  (0x1E7F0, 0x1E7FE), (0x1E800, 0x1E8C4), (0x1E8C7, 0x1E8D6), (0x1E922, 0x1E94B),
  (0x1E950, 0x1E959), (0x1E95E, 0x1E95F), (0x1EC71, 0x1ECB4), (0x1ED01, 0x1ED3D),
  (0x1EEF0, 0x1EEF1), (0x1F000, 0x1F02B), (0x1F030, 0x1F093), (0x1F0A0, 0x1F0AE),
  (0x1F0B1, 0x1F0BF), (0x1F0C1, 0x1F0CF), (0x1F0D1, 0x1F0F5), (0x1F10B, 0x1F1AD),
  (0x1F1E6, 0x1F1FF), (0x1F260, 0x1F265), (0x1F300, 0x1F6D8), (0x1F6DC, 0x1F6EC),
  (0x1F6F0, 0x1F6FC), (0x1F700, 0x1F7D9), (0x1F7E0, 0x1F7EB), (0x1F7F0, 0x1F7F0),
  (0x1F800, 0x1F80B), (0x1F810, 0x1F847), (0x1F850, 0x1F859), (0x1F860, 0x1F887),
  (0x1F890, 0x1F8AD), (0x1F8B0, 0x1F8BB), (0x1F8C0, 0x1F8C1), (0x1F8D0, 0x1F8D8),
  (0x1F900, 0x1FA57), (0x1FA60, 0x1FA6D), (0x1FA70, 0x1FA7C), (0x1FA80, 0x1FA8A),
  (0x1FA8E, 0x1FAC6), (0x1FAC8, 0x1FAC8), (0x1FACD, 0x1FADC), (0x1FADF, 0x1FAEA),
  (0x1FAEF, 0x1FAF8), (0x1FB00, 0x1FB92), (0x1FB94, 0x1FBFA), (0x20000, 0x2A6DF),
  (0x2A700, 0x2B81D), (0x2B820, 0x2CEAD), (0x2CEB0, 0x2EBE0), (0x2EBF0, 0x2EE5D),
  (0x30000, 0x3134A), (0x31350, 0x33479)]

/-- What becomes of a character in a domain name; nothing if a name cannot have it. -/
def mapping (c : Char) : Option (List Char) :=
  if Text.inRuns ignoredRuns c then some []
  else
    match Text.shiftInRuns replacedRuns c with
    | some d => some [d]
    | none =>
      match Text.imageInBlocks replacedBlocks c with
      | some cs => some cs
      | none => if Text.inRuns usableRuns c then some [c] else none

/-- Whether a character stays as it is in a domain name. -/
def isUsable (c : Char) : Bool := mapping c == some [c]

end SwapMarket.Domain
