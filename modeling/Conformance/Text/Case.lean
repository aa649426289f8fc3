/-!
Names and words without regard to case.
-/

namespace Conformance.Text

/--
The lower case of the ASCII letters and of the Kelvin sign, the only other character with an ASCII
letter for its lower case. That is enough to tell whether a text is an ASCII word in some case.
-/
def lowerChar (c : Char) : Char := if c = '\u212a' then 'k' else c.toLower

def lower (text : String) : String := text.map lowerChar

end Conformance.Text
