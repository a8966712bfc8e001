import Localizable.Plural.Language

/-!
# Rules for counting

The rules by which languages count, for the languages whose locale data are at least
basic. A language that is not listed has one category for all numbers.
-/

namespace Localizable
open PluralRule

/-- The languages that count by each set of rules. -/
def cardinalRules : List PluralLanguages := [
  ⟨["am", "as", "bn", "doi", "fa", "gu", "hi", "kn", "kok", "pcm", "zu"],
    [⟨.one, [[is i [0]], [is n [1]]]⟩]⟩,
  ⟨["hy"],
    [⟨.one, [[is i [0, 1]]]⟩]⟩,
  ⟨["ast", "de", "en", "et", "fi", "gl", "ia", "ie", "lij", "nl", "sc", "sv", "sw", "ur"],
    [⟨.one, [[is i [1], is v [0]]]⟩]⟩,
  ⟨["si"],
    [⟨.one, [[is n [0, 1]], [is i [0], is f [1]]]⟩]⟩,
  ⟨["ak", "bho", "csw", "nso", "pa", "ti"],
    [⟨.one, [[within n [(0, 1)]]]⟩]⟩,
  ⟨["af", "az", "bg", "brx", "chr", "ee", "el", "eo", "eu", "fo", "ha", "hu", "ka", "kk", "ks", "ku", "ky",
     "ml", "mn", "mr", "nb", "ne", "nn", "no", "om", "or", "pap", "ps", "rm", "sd", "so", "sq", "st", "syr",
     "ta", "te", "tk", "tn", "tr", "uz", "xh"],
    [⟨.one, [[is n [1]]]⟩]⟩,
  ⟨["da"],
    [⟨.one, [[is n [1]], [isNot t [0], is i [0, 1]]]⟩]⟩,
  ⟨["is"],
    [⟨.one, [[is t [0], is (i % 10) [1], isNot (i % 100) [11]], [is (t % 10) [1], isNot (t % 100) [11]]]⟩]⟩,
  ⟨["mk"],
    [⟨.one, [[is v [0], is (i % 10) [1], isNot (i % 100) [11]], [is (f % 10) [1], isNot (f % 100) [11]]]⟩]⟩,
  ⟨["ceb", "fil"],
    [⟨.one, [[is v [0], is i [1, 2, 3]], [is v [0], isNot (i % 10) [4, 6, 9]],
        [isNot v [0], isNot (f % 10) [4, 6, 9]]]⟩]⟩,
  ⟨["lv", "prg"],
    [⟨.zero, [[is (n % 10) [0]], [within (n % 100) [(11, 19)]], [is v [2], within (f % 100) [(11, 19)]]]⟩,
     ⟨.one, [[is (n % 10) [1], isNot (n % 100) [11]], [is v [2], is (f % 10) [1], isNot (f % 100) [11]],
        [isNot v [2], is (f % 10) [1]]]⟩]⟩,
  ⟨["blo", "cv"],
    [⟨.zero, [[is n [0]]]⟩,
     ⟨.one, [[is n [1]]]⟩]⟩,
  ⟨["he"],
    [⟨.one, [[is i [1], is v [0]], [is i [0], isNot v [0]]]⟩,
     ⟨.two, [[is i [2], is v [0]]]⟩]⟩,
  ⟨["sat"],
    [⟨.one, [[is n [1]]]⟩,
     ⟨.two, [[is n [2]]]⟩]⟩,
  ⟨["ro"],
    [⟨.one, [[is i [1], is v [0]]]⟩,
     ⟨.few, [[isNot v [0]], [is n [0]], [isNot n [1], within (n % 100) [(1, 19)]]]⟩]⟩,
  ⟨["bs", "hr", "sr"],
    [⟨.one, [[is v [0], is (i % 10) [1], isNot (i % 100) [11]], [is (f % 10) [1], isNot (f % 100) [11]]]⟩,
     ⟨.few, [[is v [0], within (i % 10) [(2, 4)], outside (i % 100) [(12, 14)]],
        [within (f % 10) [(2, 4)], outside (f % 100) [(12, 14)]]]⟩]⟩,
  ⟨["fr"],
    [⟨.one, [[is i [0, 1]]]⟩,
     ⟨.many, [[isNot i [0], is (i % 1000000) [0], is v [0]]]⟩]⟩,
  ⟨["pt"],
    [⟨.one, [[within i [(0, 1)]]]⟩,
     ⟨.many, [[isNot i [0], is (i % 1000000) [0], is v [0]]]⟩]⟩,
  ⟨["ca", "it", "lld", "pt-pt", "scn", "vec"],
    [⟨.one, [[is i [1], is v [0]]]⟩,
     ⟨.many, [[isNot i [0], is (i % 1000000) [0], is v [0]]]⟩]⟩,
  ⟨["es"],
    [⟨.one, [[is n [1]]]⟩,
     ⟨.many, [[isNot i [0], is (i % 1000000) [0], is v [0]]]⟩]⟩,
  ⟨["gd"],
    [⟨.one, [[is n [1, 11]]]⟩,
     ⟨.two, [[is n [2, 12]]]⟩,
     ⟨.few, [[within n [(3, 10), (13, 19)]]]⟩]⟩,
  ⟨["sl"],
    [⟨.one, [[is v [0], is (i % 100) [1]]]⟩,
     ⟨.two, [[is v [0], is (i % 100) [2]]]⟩,
     ⟨.few, [[is v [0], within (i % 100) [(3, 4)]], [isNot v [0]]]⟩]⟩,
  ⟨["dsb", "hsb"],
    [⟨.one, [[is v [0], is (i % 100) [1]], [is (f % 100) [1]]]⟩,
     ⟨.two, [[is v [0], is (i % 100) [2]], [is (f % 100) [2]]]⟩,
     ⟨.few, [[is v [0], within (i % 100) [(3, 4)]], [within (f % 100) [(3, 4)]]]⟩]⟩,
  ⟨["cs", "sk"],
    [⟨.one, [[is i [1], is v [0]]]⟩,
     ⟨.few, [[within i [(2, 4)], is v [0]]]⟩,
     ⟨.many, [[isNot v [0]]]⟩]⟩,
  ⟨["pl"],
    [⟨.one, [[is i [1], is v [0]]]⟩,
     ⟨.few, [[is v [0], within (i % 10) [(2, 4)], outside (i % 100) [(12, 14)]]]⟩,
     ⟨.many, [[is v [0], isNot i [1], within (i % 10) [(0, 1)]], [is v [0], within (i % 10) [(5, 9)]],
        [is v [0], within (i % 100) [(12, 14)]]]⟩]⟩,
  ⟨["be"],
    [⟨.one, [[is (n % 10) [1], isNot (n % 100) [11]]]⟩,
     ⟨.few, [[within (n % 10) [(2, 4)], outside (n % 100) [(12, 14)]]]⟩,
     ⟨.many, [[is (n % 10) [0]], [within (n % 10) [(5, 9)]], [within (n % 100) [(11, 14)]]]⟩]⟩,
  ⟨["lt"],
    [⟨.one, [[is (n % 10) [1], outside (n % 100) [(11, 19)]]]⟩,
     ⟨.few, [[within (n % 10) [(2, 9)], outside (n % 100) [(11, 19)]]]⟩,
     ⟨.many, [[isNot f [0]]]⟩]⟩,
  ⟨["ru", "uk"],
    [⟨.one, [[is v [0], is (i % 10) [1], isNot (i % 100) [11]]]⟩,
     ⟨.few, [[is v [0], within (i % 10) [(2, 4)], outside (i % 100) [(12, 14)]]]⟩,
     ⟨.many, [[is v [0], is (i % 10) [0]], [is v [0], within (i % 10) [(5, 9)]],
        [is v [0], within (i % 100) [(11, 14)]]]⟩]⟩,
  ⟨["sgs"],
    [⟨.one, [[is (n % 10) [1], isNot (n % 100) [11]]]⟩,
     ⟨.two, [[is n [2]]]⟩,
     ⟨.few, [[isNot n [2], within (n % 10) [(2, 9)], outside (n % 100) [(11, 19)]]]⟩,
     ⟨.many, [[isNot f [0]]]⟩]⟩,
  ⟨["br"],
    [⟨.one, [[is (n % 10) [1], isNot (n % 100) [11, 71, 91]]]⟩,
     ⟨.two, [[is (n % 10) [2], isNot (n % 100) [12, 72, 92]]]⟩,
     ⟨.few, [[within (n % 10) [(3, 4), (9, 9)], outside (n % 100) [(10, 19), (70, 79), (90, 99)]]]⟩,
     ⟨.many, [[isNot n [0], is (n % 1000000) [0]]]⟩]⟩,
  ⟨["mt"],
    [⟨.one, [[is n [1]]]⟩,
     ⟨.two, [[is n [2]]]⟩,
     ⟨.few, [[is n [0]], [within (n % 100) [(3, 10)]]]⟩,
     ⟨.many, [[within (n % 100) [(11, 19)]]]⟩]⟩,
  ⟨["ga"],
    [⟨.one, [[is n [1]]]⟩,
     ⟨.two, [[is n [2]]]⟩,
     ⟨.few, [[within n [(3, 6)]]]⟩,
     ⟨.many, [[within n [(7, 10)]]]⟩]⟩,
  ⟨["ar"],
    [⟨.zero, [[is n [0]]]⟩,
     ⟨.one, [[is n [1]]]⟩,
     ⟨.two, [[is n [2]]]⟩,
     ⟨.few, [[within (n % 100) [(3, 10)]]]⟩,
     ⟨.many, [[within (n % 100) [(11, 99)]]]⟩]⟩,
  ⟨["cy"],
    [⟨.zero, [[is n [0]]]⟩,
     ⟨.one, [[is n [1]]]⟩,
     ⟨.two, [[is n [2]]]⟩,
     ⟨.few, [[is n [3]]]⟩,
     ⟨.many, [[is n [6]]]⟩]⟩]

end Localizable
