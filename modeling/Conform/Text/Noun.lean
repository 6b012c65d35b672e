/-!
Nouns inside sentences.
-/

namespace Conform.Text

/-- The noun with the indefinite article that its first letter asks for. -/
def withArticle (noun : String) : String :=
  let vowel := match noun.toList with
    | c :: _ => "AEIOUaeiou".toList.contains c
    | [] => false
  (if vowel then "an " else "a ") ++ noun

end Conform.Text
