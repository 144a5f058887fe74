import FeatureChoice.Expression.Term
import FeatureChoice.Text.Quoted
/-!
Terms and tokens in words, with every name in quotes.
-/

namespace FeatureChoice.Expression

def describeName (name : Option String) : String := name.elim "None" Text.quoted

def Term.display : Term → String
  | .leaf name => "Id(" ++ describeName name ++ ")"
  | .guarded feature t u =>
    "Guard(" ++ Text.quoted feature ++ ", " ++ t.display ++ ", " ++ u.display ++ ")"

end FeatureChoice.Expression
