import Localizable.Plural.Language

/-!
# Rules for numbering places

The rules by which languages number places, for the languages whose locale data are
at least basic. A language that is not listed has one category for all numbers.
-/

namespace Localizable
open PluralRule

/-- The languages that number places by each set of rules. -/
def ordinalRules : List PluralLanguages := [
  ⟨["sv"],
    [⟨.one, [[is (n % 10) [1, 2], isNot (n % 100) [11, 12]]]⟩]⟩,
  ⟨["fil", "fr", "ga", "hy", "lo", "ms", "ro", "vi"],
    [⟨.one, [[is n [1]]]⟩]⟩,
  ⟨["hu"],
    [⟨.one, [[is n [1, 5]]]⟩]⟩,
  ⟨["ne"],
    [⟨.one, [[within n [(1, 4)]]]⟩]⟩,
  ⟨["be"],
    [⟨.few, [[is (n % 10) [2, 3], isNot (n % 100) [12, 13]]]⟩]⟩,
  ⟨["uk"],
    [⟨.few, [[is (n % 10) [3], isNot (n % 100) [13]]]⟩]⟩,
  ⟨["tk"],
    [⟨.few, [[is (n % 10) [6, 9]], [is n [10]]]⟩]⟩,
  ⟨["kk"],
    [⟨.many, [[is (n % 10) [6]], [is (n % 10) [9]], [is (n % 10) [0], isNot n [0]]]⟩]⟩,
  ⟨["it", "lld", "sc", "vec"],
    [⟨.many, [[is n [11, 8, 80, 800]]]⟩]⟩,
  ⟨["lij", "scn"],
    [⟨.many, [[within n [(11, 11), (8, 8), (80, 89), (800, 899)]]]⟩]⟩,
  ⟨["ka"],
    [⟨.one, [[is i [1]]]⟩,
     ⟨.many, [[is i [0]], [within (i % 100) [(2, 20), (40, 40), (60, 60), (80, 80)]]]⟩]⟩,
  ⟨["sq"],
    [⟨.one, [[is n [1]]]⟩,
     ⟨.many, [[is (n % 10) [4], isNot (n % 100) [14]]]⟩]⟩,
  ⟨["en"],
    [⟨.one, [[is (n % 10) [1], isNot (n % 100) [11]]]⟩,
     ⟨.two, [[is (n % 10) [2], isNot (n % 100) [12]]]⟩,
     ⟨.few, [[is (n % 10) [3], isNot (n % 100) [13]]]⟩]⟩,
  ⟨["kok", "mr"],
    [⟨.one, [[is n [1]]]⟩,
     ⟨.two, [[is n [2, 3]]]⟩,
     ⟨.few, [[is n [4]]]⟩]⟩,
  ⟨["gd"],
    [⟨.one, [[is n [1, 11]]]⟩,
     ⟨.two, [[is n [2, 12]]]⟩,
     ⟨.few, [[is n [3, 13]]]⟩]⟩,
  ⟨["ca"],
    [⟨.one, [[is n [1, 3]]]⟩,
     ⟨.two, [[is n [2]]]⟩,
     ⟨.few, [[is n [4]]]⟩]⟩,
  ⟨["mk"],
    [⟨.one, [[is (i % 10) [1], isNot (i % 100) [11]]]⟩,
     ⟨.two, [[is (i % 10) [2], isNot (i % 100) [12]]]⟩,
     ⟨.many, [[is (i % 10) [7, 8], isNot (i % 100) [17, 18]]]⟩]⟩,
  ⟨["az"],
    [⟨.one, [[is (i % 10) [1, 2, 5, 7, 8]], [is (i % 100) [20, 50, 70, 80]]]⟩,
     ⟨.few, [[is (i % 10) [3, 4]], [is (i % 1000) [100, 200, 300, 400, 500, 600, 700, 800, 900]]]⟩,
     ⟨.many, [[is i [0]], [is (i % 10) [6]], [is (i % 100) [40, 60, 90]]]⟩]⟩,
  ⟨["gu", "hi"],
    [⟨.one, [[is n [1]]]⟩,
     ⟨.two, [[is n [2, 3]]]⟩,
     ⟨.few, [[is n [4]]]⟩,
     ⟨.many, [[is n [6]]]⟩]⟩,
  ⟨["as", "bn"],
    [⟨.one, [[is n [1, 5, 7, 8, 9, 10]]]⟩,
     ⟨.two, [[is n [2, 3]]]⟩,
     ⟨.few, [[is n [4]]]⟩,
     ⟨.many, [[is n [6]]]⟩]⟩,
  ⟨["or"],
    [⟨.one, [[within n [(1, 1), (5, 5), (7, 9)]]]⟩,
     ⟨.two, [[is n [2, 3]]]⟩,
     ⟨.few, [[is n [4]]]⟩,
     ⟨.many, [[is n [6]]]⟩]⟩,
  ⟨["cy"],
    [⟨.zero, [[is n [0, 7, 8, 9]]]⟩,
     ⟨.one, [[is n [1]]]⟩,
     ⟨.two, [[is n [2]]]⟩,
     ⟨.few, [[is n [3, 4]]]⟩,
     ⟨.many, [[is n [5, 6]]]⟩]⟩,
  ⟨["blo"],
    [⟨.zero, [[is i [0]]]⟩,
     ⟨.one, [[is i [1]]]⟩,
     ⟨.few, [[is i [2, 3, 4, 5, 6]]]⟩]⟩]

end Localizable
