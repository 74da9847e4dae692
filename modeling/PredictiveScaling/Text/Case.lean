/-!
# Letter case

Names that only the letter case tells apart. The names that are looked for are made of
ASCII letters, and besides the capitals of those one further character becomes an ASCII
letter in lower case, the Kelvin sign.
-/
namespace PredictiveScaling.Text

/-- The lower case of a character as far as names of ASCII letters can tell. -/
def lowerChar (c : Char) : Char := if c = '\u212a' then 'k' else c.toLower

def lower (s : String) : String := s.map lowerChar

end PredictiveScaling.Text
