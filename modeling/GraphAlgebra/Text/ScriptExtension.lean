import GraphAlgebra.Text.CharSet
import GraphAlgebra.Text.Script
/-!
# Script extensions

Some characters are used with a known choice of scripts, whatever their own script is. The tables
list these choices by the short names of the scripts. A script taken with its extensions holds
these characters for every script of the choice, and of all others those of the script itself.
-/

namespace GraphAlgebra

def scriptChoicesLower : List (List String × CharClass) :=
  [
    ([
      "avst", "cari", "copt", "dupl", "elba", "geor", "glag", "gong", "goth", "grek", "hani",
      "latn", "lydi", "mahj", "perm", "shaw"],
      ⟨[183, 184]⟩),
    (["beng", "cyrl", "deva", "latn", "lisu", "thai", "toto"], ⟨[700, 701]⟩),
    (["bopo", "latn"], ⟨[711, 712, 713, 716, 729, 730]⟩),
    (["latn", "lisu"], ⟨[717, 718]⟩),
    (["latn", "thai"], ⟨[727, 728]⟩),
    (["cher", "copt", "cyrl", "grek", "latn", "perm", "sunu", "tale"], ⟨[768, 769]⟩),
    (["cher", "cyrl", "grek", "latn", "osge", "sunu", "tale", "todr"], ⟨[769, 770]⟩),
    (["cher", "cyrl", "latn", "tfng"], ⟨[770, 771]⟩),
    (["glag", "latn", "sunu", "syrc", "thai"], ⟨[771, 772]⟩),
    (["aghb", "cher", "copt", "cyrl", "goth", "grek", "latn", "osge", "syrc", "tfng", "todr"],
      ⟨[772, 773]⟩),
    (["copt", "elba", "glag", "goth", "kana", "latn"], ⟨[773, 774]⟩),
    (["cyrl", "grek", "latn", "perm", "tfng"], ⟨[774, 775]⟩),
    (["copt", "dupl", "hebr", "latn", "perm", "syrc", "tale", "tfng", "todr"], ⟨[775, 776]⟩),
    (["armn", "cyrl", "dupl", "goth", "grek", "hebr", "latn", "perm", "syrc", "tale", "tfng"],
      ⟨[776, 777]⟩),
    (["latn", "tfng"], ⟨[777, 778]⟩),
    (["dupl", "latn", "syrc"], ⟨[778, 779]⟩),
    (["cher", "cyrl", "latn", "osge"], ⟨[779, 780]⟩),
    (["cher", "latn", "tale"], ⟨[780, 781]⟩),
    (["latn", "sunu"], ⟨[781, 782, 784, 785]⟩),
    (["ethi", "latn"], ⟨[782, 783]⟩),
    (["cyrl", "latn", "todr"], ⟨[785, 786]⟩),
    (["grek", "latn", "perm", "todr"], ⟨[787, 788]⟩),
    (["cher", "dupl", "kana", "latn", "syrc", "tfng"], ⟨[803, 804]⟩),
    (["cher", "dupl", "latn", "syrc"], ⟨[804, 805]⟩),
    (["latn", "syrc"], ⟨[805, 806, 814, 815]⟩),
    (["latn", "sunu", "syrc"], ⟨[813, 814]⟩),
    (["cher", "latn", "syrc"], ⟨[816, 817]⟩),
    (["aghb", "cher", "goth", "latn", "sunu", "syrc", "thai"], ⟨[817, 818]⟩),
    (["grek"], ⟨[834, 835, 837, 838, 7616, 7618]⟩),
    (["latn", "osge"], ⟨[856, 857]⟩),
    (["aghb", "latn", "todr"], ⟨[862, 863]⟩),
    (["latn"], ⟨[867, 880]⟩),
    (["copt", "grek"], ⟨[884, 886]⟩),
    (["cyrl", "perm"], ⟨[1155, 1156]⟩),
    (["cyrl", "glag"], ⟨[1156, 1157, 1159, 1160, 11843, 11844, 42607, 42608]⟩),
    (["cyrl", "latn"], ⟨[1157, 1159]⟩),
    (["armn", "geor", "glag"], ⟨[1417, 1418]⟩),
    (["arab", "gara", "nkoo", "rohg", "syrc", "thaa", "yezi"], ⟨[1548, 1549, 1563, 1564]⟩),
    (["arab", "syrc", "thaa"], ⟨[1564, 1565]⟩),
    (["adlm", "arab", "gara", "nkoo", "rohg", "syrc", "thaa", "yezi"], ⟨[1567, 1568]⟩),
    (["adlm", "arab", "mand", "mani", "ougr", "phlp", "rohg", "sogd", "syrc"], ⟨[1600, 1601]⟩),
    (["arab", "syrc"], ⟨[1611, 1622, 1648, 1649]⟩),
    (["arab", "thaa", "yezi"], ⟨[1632, 1642]⟩),
    (["arab", "rohg"], ⟨[1748, 1749]⟩),
    ([
      "beng", "deva", "gran", "gujr", "guru", "knda", "latn", "mlym", "nand", "newa", "orya",
      "shrd", "taml", "telu", "tirh"],
      ⟨[2385, 2386]⟩),
    ([
      "beng", "deva", "gran", "gujr", "guru", "knda", "latn", "mlym", "newa", "orya", "taml",
      "telu", "tirh"],
      ⟨[2386, 2387]⟩),
    ([
      "beng", "deva", "dogr", "gong", "gonm", "gran", "gujr", "guru", "knda", "mahj", "mlym",
      "nand", "onao", "orya", "sind", "sinh", "sylo", "takr", "taml", "telu", "tirh"],
      ⟨[2404, 2405]⟩),
    ([
      "beng", "deva", "dogr", "gong", "gonm", "gran", "gujr", "gukh", "guru", "knda", "limb",
      "mahj", "mlym", "nand", "onao", "orya", "sind", "sinh", "sylo", "takr", "taml", "telu",
      "tirh"],
      ⟨[2405, 2406]⟩),
    (["deva", "dogr", "kthi", "mahj"], ⟨[2406, 2416]⟩),
    (["beng", "cakm", "sylo"], ⟨[2534, 2544]⟩),
    (["guru", "mult"], ⟨[2662, 2672]⟩),
    (["gujr", "khoj"], ⟨[2790, 2800]⟩),
    (["gran", "taml"],
      ⟨[3046, 3060, 70401, 70402, 70403, 70404, 70459, 70461, 73680, 73682, 73683, 73684]⟩),
    (["knda", "nand", "tutg"], ⟨[3302, 3312]⟩),
    (["cakm", "mymr", "tale"], ⟨[4160, 4170]⟩),
    (["geor", "glag", "latn"], ⟨[4347, 4348]⟩),
    (["runr"], ⟨[5867, 5870]⟩),
    (["buhd", "hano", "tagb", "tglg"], ⟨[5941, 5943]⟩),
    (["mong", "phag"], ⟨[6146, 6148, 6149, 6150]⟩),
    (["beng", "deva", "gran", "knda"], ⟨[7376, 7377, 7378, 7379]⟩)
  ]

def scriptChoicesUpper : List (List String × CharClass) :=
  [
    (["deva"],
      ⟨[7377, 7378, 7380, 7381, 7387, 7388, 7390, 7392, 7395, 7401, 7404, 7405, 7406, 7410]⟩),
    (["deva", "gran", "knda"], ⟨[7379, 7380]⟩),
    (["beng", "deva", "newa", "telu", "tirh"], ⟨[7381, 7382]⟩),
    (["beng", "deva", "telu"], ⟨[7382, 7383]⟩),
    (["deva", "newa", "shrd"], ⟨[7383, 7384]⟩),
    (["beng", "deva", "newa", "telu"], ⟨[7384, 7385]⟩),
    (["deva", "shrd"], ⟨[7385, 7386, 7388, 7390, 7392, 7393]⟩),
    (["deva", "knda", "mlym", "orya", "taml", "telu"], ⟨[7386, 7387]⟩),
    (["beng", "deva"], ⟨[7393, 7394, 7413, 7415]⟩),
    (["deva", "newa", "tirh"], ⟨[7394, 7395]⟩),
    (["deva", "nand", "newa"], ⟨[7401, 7402]⟩),
    (["beng", "deva", "shrd"], ⟨[7402, 7403]⟩),
    (["deva", "newa"], ⟨[7403, 7404]⟩),
    (["beng", "deva", "newa", "shrd"], ⟨[7405, 7406]⟩),
    (["beng", "deva", "gran", "knda", "mlym", "nand", "orya", "sinh", "telu", "tirh", "tutg"],
      ⟨[7410, 7411]⟩),
    (["deva", "gran"], ⟨[7411, 7412, 7416, 7418]⟩),
    (["deva", "gran", "knda", "tutg"], ⟨[7412, 7413]⟩),
    (["beng"], ⟨[7415, 7416]⟩),
    (["nand"], ⟨[7418, 7419]⟩),
    (["cyrl", "latn", "syrc"], ⟨[7672, 7673]⟩),
    (["syrc"], ⟨[7674, 7675]⟩),
    (["latn", "mong", "phag"], ⟨[8239, 8240]⟩),
    (["adlm", "arab"], ⟨[8271, 8272]⟩),
    (["cari", "geor", "glag", "hung", "lyci", "orkh"], ⟨[8282, 8283]⟩),
    (["cari", "grek", "hung", "mero"], ⟨[8285, 8286]⟩),
    (["deva", "gran", "latn"], ⟨[8432, 8433]⟩),
    (["copt", "latn"], ⟨[11799, 11800]⟩),
    (["avst", "orkh"], ⟨[11824, 11825]⟩),
    (["avst", "cari", "geor", "hung", "kthi", "lydi", "samr"], ⟨[11825, 11826]⟩),
    (["dupl"], ⟨[11836, 11837, 113824, 113828]⟩),
    (["adlm", "arab", "hung"], ⟨[11841, 11842]⟩),
    (["hani", "tang"], ⟨[12272, 12288, 12783, 12784]⟩),
    (["bopo", "hang", "hani", "hira", "kana", "mong", "yiii"], ⟨[12289, 12290]⟩),
    (["bopo", "hang", "hani", "hira", "kana", "mong", "phag", "yiii"], ⟨[12290, 12291]⟩),
    (["bopo", "hang", "hani", "hira", "kana"],
      ⟨[12291, 12292, 12307, 12308, 12316, 12320, 12336, 12337, 12343, 12344, 65093, 65095]⟩),
    (["hani"],
      ⟨[12294, 12295, 12350, 12352, 12688, 12704, 12736, 12774, 12832, 12872, 12928, 12977, 12992,
        13004, 13055, 13056, 13144, 13169, 13179, 13184, 13280, 13311, 119648, 119666, 127568,
        127570]⟩),
    (["bopo", "hang", "hani", "hira", "kana", "mong", "tibt", "yiii"], ⟨[12296, 12298]⟩),
    (["bopo", "hang", "hani", "hira", "kana", "lisu", "mong", "tibt", "yiii"], ⟨[12298, 12300]⟩),
    (["bopo", "hang", "hani", "hira", "kana", "yiii"],
      ⟨[12300, 12306, 12308, 12316, 12539, 12540, 65377, 65382]⟩),
    (["bopo", "hani"], ⟨[12330, 12334]⟩),
    (["hira", "kana"],
      ⟨[12337, 12342, 12441, 12445, 12448, 12449, 12540, 12541, 65392, 65393, 65438, 65440]⟩),
    (["hani", "hira", "kana"], ⟨[12348, 12350]⟩),
    (["hani", "latn"], ⟨[42752, 42760]⟩),
    ([
      "deva", "dogr", "gujr", "guru", "khoj", "knda", "kthi", "mahj", "mlym", "modi", "nand",
      "shrd", "sind", "takr", "tirh", "tutg"],
      ⟨[43056, 43059]⟩),
    ([
      "deva", "dogr", "gujr", "guru", "khoj", "knda", "kthi", "mahj", "modi", "nand", "shrd",
      "sind", "takr", "tirh", "tutg"],
      ⟨[43059, 43062]⟩),
    (["deva", "dogr", "gujr", "guru", "khoj", "kthi", "mahj", "modi", "sind", "takr", "tirh"],
      ⟨[43062, 43064, 43065, 43066]⟩),
    ([
      "deva", "dogr", "gujr", "guru", "khoj", "kthi", "mahj", "modi", "shrd", "sind", "takr",
      "tirh"],
      ⟨[43064, 43065]⟩),
    (["beng", "deva", "tutg"], ⟨[43249, 43250]⟩),
    (["deva", "taml"], ⟨[43251, 43252]⟩),
    (["kali", "latn", "mymr"], ⟨[43310, 43311]⟩),
    (["bugi", "java"], ⟨[43471, 43472]⟩),
    (["arab", "nkoo"], ⟨[64830, 64832]⟩),
    (["arab", "thaa"], ⟨[65010, 65011, 65021, 65022]⟩),
    (["cpmn", "cprt", "linb"], ⟨[65792, 65794]⟩),
    (["cprt", "linb"], ⟨[65794, 65795, 65847, 65856]⟩),
    (["cprt", "lina", "linb"], ⟨[65799, 65844]⟩),
    (["arab", "copt"], ⟨[66272, 66300]⟩),
    (["mani", "ougr"], ⟨[68338, 68339]⟩)
  ]

/-- All choices of scripts and the characters that are used with each. -/
def scriptChoices : List (List String × CharClass) := scriptChoicesLower ++ scriptChoicesUpper

def charsOfChoices (choices : List (List String × CharClass)) : CharClass :=
  choices.foldl (fun k e => k.union e.2) .empty

def scriptExtensionNamed? (name : String) : Option CharSet := do
  let (names, script) ← scripts.find? (·.1.contains name)
  let chosen := scriptChoices.filter fun e => e.1.any names.contains
  some (.union (.listed (charsOfChoices chosen))
    (.diff (.listed script) (.listed (charsOfChoices scriptChoices))))

end GraphAlgebra
