import ListQuery.Text.Basic

/-!
# Quoted texts

A text in single quotes, in which a quote of the text itself is written twice. Reading
refuses a quote that stands alone and a text that is not enclosed in quotes.
-/

namespace ListQuery.Text.Quoted

/-- The single quote. -/
def quote : CodePoint := '\x27'

/-- Writes each quote twice. -/
def double : Text → Text
  | [] => []
  | c :: rest => if c = quote then quote :: quote :: double rest else c :: double rest

/-- The quoted form of a text. -/
def encode (text : Text) : Text :=
  quote :: (double text ++ [quote])

/-- Reads the rest of a quoted text after its opening quote, up to a closing quote at the very
end. -/
def decodeBody : Text → Option Text
  | [] => none
  | [c] => if c = quote then some [] else none
  | c :: d :: rest =>
    if c = quote then
      if d = quote then (decodeBody rest).map (quote :: ·) else none
    else (decodeBody (d :: rest)).map (c :: ·)

/-- The text that `token` is the quoted form of. -/
def decode : Text → Option Text
  | [] => none
  | c :: body => if c = quote then decodeBody body else none

end ListQuery.Text.Quoted
