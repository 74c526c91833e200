import DistrictAtlas.Text.CodePage.Basic

/-!
# Windows code pages

The code pages 874 and 1250 to 1258, which put letters and typographic characters behind ASCII.
-/

namespace DistrictAtlas.CodePage

/-- Windows code pages. -/
def windows : List CodePage :=
  [ofHigh "cp874" []
      ["€\ufffd\ufffd\ufffd\ufffd…\ufffd\ufffd\ufffd\ufffd\ufffd\ufffd\ufffd\ufffd\ufffd\ufffd",
       "\ufffd‘’“”•–—\ufffd\ufffd\ufffd\ufffd\ufffd\ufffd\ufffd\ufffd", "\u00a0กขฃคฅฆงจฉชซฌญฎฏ",
       "ฐฑฒณดตถทธนบปผฝพฟ", "ภมยรฤลฦวศษสหฬอฮฯ",
       "ะ\u0e31าำ\u0e34\u0e35\u0e36\u0e37\u0e38\u0e39\u0e3a\ufffd\ufffd\ufffd\ufffd฿",
       "เแโใไๅๆ\u0e47\u0e48\u0e49\u0e4a\u0e4b\u0e4c\u0e4d\u0e4e๏",
       "๐๑๒๓๔๕๖๗๘๙๚๛\ufffd\ufffd\ufffd\ufffd"],
   ofHigh "cp1250" ["1250", "windows_1250"]
      ["€\ufffd‚\ufffd„…†‡\ufffd‰Š‹ŚŤŽŹ", "\ufffd‘’“”•–—\ufffd™š›śťžź",
       "\u00a0ˇ˘Ł¤Ą¦§¨©Ş«¬\u00ad®Ż", "°±˛ł´µ¶·¸ąş»Ľ˝ľż", "ŔÁÂĂÄĹĆÇČÉĘËĚÍÎĎ", "ĐŃŇÓÔŐÖ×ŘŮÚŰÜÝŢß",
       "ŕáâăäĺćçčéęëěíîď", "đńňóôőö÷řůúűüýţ˙"],
   ofHigh "cp1251" ["1251", "windows_1251"]
      ["ЂЃ‚ѓ„…†‡€‰Љ‹ЊЌЋЏ", "ђ‘’“”•–—\ufffd™љ›њќћџ", "\u00a0ЎўЈ¤Ґ¦§Ё©Є«¬\u00ad®Ї",
       "°±Ііґµ¶·ё№є»јЅѕї", "АБВГДЕЖЗИЙКЛМНОП", "РСТУФХЦЧШЩЪЫЬЭЮЯ", "абвгдежзийклмноп",
       "рстуфхцчшщъыьэюя"],
   ofHigh "cp1252" ["1252", "windows_1252"]
      ["€\ufffd‚ƒ„…†‡ˆ‰Š‹Œ\ufffdŽ\ufffd", "\ufffd‘’“”•–—˜™š›œ\ufffdžŸ",
       "\u00a0¡¢£¤¥¦§¨©ª«¬\u00ad®¯", "°±²³´µ¶·¸¹º»¼½¾¿", "ÀÁÂÃÄÅÆÇÈÉÊËÌÍÎÏ", "ÐÑÒÓÔÕÖ×ØÙÚÛÜÝÞß",
       "àáâãäåæçèéêëìíîï", "ðñòóôõö÷øùúûüýþÿ"],
   ofHigh "cp1253" ["1253", "windows_1253"]
      ["€\ufffd‚ƒ„…†‡\ufffd‰\ufffd‹\ufffd\ufffd\ufffd\ufffd",
       "\ufffd‘’“”•–—\ufffd™\ufffd›\ufffd\ufffd\ufffd\ufffd", "\u00a0΅Ά£¤¥¦§¨©\ufffd«¬\u00ad®―",
       "°±²³΄µ¶·ΈΉΊ»Ό½ΎΏ", "ΐΑΒΓΔΕΖΗΘΙΚΛΜΝΞΟ", "ΠΡ\ufffdΣΤΥΦΧΨΩΪΫάέήί", "ΰαβγδεζηθικλμνξο",
       "πρςστυφχψωϊϋόύώ\ufffd"],
   ofHigh "cp1254" ["1254", "windows_1254"]
      ["€\ufffd‚ƒ„…†‡ˆ‰Š‹Œ\ufffd\ufffd\ufffd", "\ufffd‘’“”•–—˜™š›œ\ufffd\ufffdŸ",
       "\u00a0¡¢£¤¥¦§¨©ª«¬\u00ad®¯", "°±²³´µ¶·¸¹º»¼½¾¿", "ÀÁÂÃÄÅÆÇÈÉÊËÌÍÎÏ", "ĞÑÒÓÔÕÖ×ØÙÚÛÜİŞß",
       "àáâãäåæçèéêëìíîï", "ğñòóôõö÷øùúûüışÿ"],
   ofHigh "cp1255" ["1255", "windows_1255"]
      ["€\ufffd‚ƒ„…†‡ˆ‰\ufffd‹\ufffd\ufffd\ufffd\ufffd",
       "\ufffd‘’“”•–—˜™\ufffd›\ufffd\ufffd\ufffd\ufffd", "\u00a0¡¢£₪¥¦§¨©×«¬\u00ad®¯",
       "°±²³´µ¶·¸¹÷»¼½¾¿",
       "\u05b0\u05b1\u05b2\u05b3\u05b4\u05b5\u05b6\u05b7\u05b8\u05b9\ufffd\u05bb\u05bc\u05bd\u05be\u05bf",
       "\u05c0\u05c1\u05c2\u05c3\u05f0\u05f1\u05f2\u05f3\u05f4\ufffd\ufffd\ufffd\ufffd\ufffd\ufffd\ufffd",
       "\u05d0\u05d1\u05d2\u05d3\u05d4\u05d5\u05d6\u05d7\u05d8\u05d9\u05da\u05db\u05dc\u05dd\u05de\u05df",
       "\u05e0\u05e1\u05e2\u05e3\u05e4\u05e5\u05e6\u05e7\u05e8\u05e9\u05ea\ufffd\ufffd\u200e\u200f\ufffd"],
   ofHigh "cp1256" ["1256", "windows_1256"]
      ["€\u067e‚ƒ„…†‡ˆ‰\u0679‹Œ\u0686\u0698\u0688",
       "\u06af‘’“”•–—\u06a9™\u0691›œ\u200c\u200d\u06ba", "\u00a0،¢£¤¥¦§¨©\u06be«¬\u00ad®¯",
       "°±²³´µ¶·¸¹\u061b»¼½¾\u061f",
       "\u06c1\u0621\u0622\u0623\u0624\u0625\u0626\u0627\u0628\u0629\u062a\u062b\u062c\u062d\u062e\u062f",
       "\u0630\u0631\u0632\u0633\u0634\u0635\u0636×\u0637\u0638\u0639\u063a\u0640\u0641\u0642\u0643",
       "à\u0644â\u0645\u0646\u0647\u0648çèéêë\u0649\u064aîï",
       "\u064b\u064c\u064d\u064eô\u064f\u0650÷\u0651ù\u0652ûü\u200e\u200f\u06d2"],
   ofHigh "cp1257" ["1257", "windows_1257"]
      ["€\ufffd‚\ufffd„…†‡\ufffd‰\ufffd‹\ufffd¨ˇ¸", "\ufffd‘’“”•–—\ufffd™\ufffd›\ufffd¯˛\ufffd",
       "\u00a0\ufffd¢£¤\ufffd¦§Ø©Ŗ«¬\u00ad®Æ", "°±²³´µ¶·ø¹ŗ»¼½¾æ", "ĄĮĀĆÄÅĘĒČÉŹĖĢĶĪĻ",
       "ŠŃŅÓŌÕÖ×ŲŁŚŪÜŻŽß", "ąįāćäåęēčéźėģķīļ", "šńņóōõö÷ųłśūüżž˙"],
   ofHigh "cp1258" ["1258", "windows_1258"]
      ["€\ufffd‚ƒ„…†‡ˆ‰\ufffd‹Œ\ufffd\ufffd\ufffd", "\ufffd‘’“”•–—˜™\ufffd›œ\ufffd\ufffdŸ",
       "\u00a0¡¢£¤¥¦§¨©ª«¬\u00ad®¯", "°±²³´µ¶·¸¹º»¼½¾¿", "ÀÁÂĂÄÅÆÇÈÉÊË\u0300ÍÎÏ",
       "ĐÑ\u0309ÓÔƠÖ×ØÙÚÛÜƯ\u0303ß", "àáâăäåæçèéêë\u0301íîï", "đñ\u0323óôơö÷øùúûüư₫ÿ"]]

end DistrictAtlas.CodePage
