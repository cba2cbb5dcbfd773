import ListQuery.Text.Percent

/-!
# The libraries around the service

The service stands on a web framework and on a metrics library. What it leaves to them is gathered
here, and each definition names the documented behaviour that it stands for: how Starlette matches
paths and reads the parameters and the address of a request, which pages FastAPI adds to an
application, and how `prometheus_client` writes a counter. What else it leaves to them takes the
types of the service: which bodies can be encoded is said with these, and what Starlette answers
where no endpoint does, with the handler of requests.
-/

namespace ListQuery.Framework

open Text

/-! ## Routes -/

/-- The path that the pattern of a route is compared with. Starlette ends a pattern in `$`, which
also matches in front of one line feed at the end. -/
def dropLineFeed (text : Text) : Text :=
  if text.getLast? = some (.scalar '\n') then text.dropLast else text

/-- Whether a segment of a path can stand for a parameter. Starlette takes one character or more,
none of them a slash. -/
def isParameter (segment : Text) : Bool :=
  segment ≠ []

/-- The path that a path with slashes at its end is compared with again if no route matches it.
Starlette answers with a redirection if a route matches then. -/
def withoutSlashes? (path : Text) : Option Text :=
  let shorter := dropTrailing (· = '/') path
  if shorter ≠ path then some shorter else none

/-- The methods of a route that is declared with one. FastAPI takes this method alone. -/
def operationMethods : List Text := ["GET"]

/-- The methods of a route that is declared with none. Starlette takes them both. -/
def plainMethods : List Text := ["GET", "HEAD"]

/-- The pages that FastAPI adds to an application: the description of its interface, two viewers of
it, and the page to which one of these is led back after an authorization. -/
inductive Page where
  | description
  | explorer
  | authorization
  | reference
deriving Repr, DecidableEq

/-- The path of a page. -/
def Page.path : Page → Text
  | description => "/openapi.json"
  | explorer => "/docs"
  | authorization => "/docs/oauth2-redirect"
  | reference => "/redoc"

/-! ## Parameters and headers -/

/-- The value of a parameter of a query. Starlette keeps all of them, and of several with one name
the last one counts. -/
def lastValue? (parameters : List (Text × Text)) (name : Text) : Option Text :=
  (parameters.findRev? (·.1 = name)).map Prod.snd

/-! ## Addresses -/

namespace Url

/-- The host of the service. -/
def host : Text := "http://test"

/-- A character of a path. The marks that start a query and a fragment are encoded. -/
def pathChar (c : CodePoint) : Text :=
  if c = '?' then "%3F" else if c = '#' then "%23" else [c]

/-- A path with a slash in front. -/
def rooted : Text → Text
  | '/' :: rest => '/' :: rest
  | path => '/' :: path

/-- A path as an address writes it. -/
def path (requested : Text) : Text :=
  (rooted requested).flatMap pathChar

/-- Whether a reader of an address leaves a character out, as those of URLs do with tabs and line
breaks. -/
def isDropped (c : CodePoint) : Bool :=
  c = '\t' || c = '\n' || c = '\r'

/-- The path that is read from the address of a request. -/
def readPath (requested : Text) : Text :=
  (path requested).filter (! isDropped ·)

/-- The query of an address with its mark; nothing if there are no parameters. -/
def query (parameters : List (Text × Text)) : Text :=
  if parameters = [] then [] else '?' :: queryString parameters

/-- The address of a path with parameters. -/
def of (requested : Text) (parameters : List (Text × Text)) : Text :=
  host ++ path requested ++ query parameters

/-- The characters that Starlette leaves alone in the address of a redirection. -/
def kept : Text := ":/%#?=@[]!$&\x27()*+,;"

/-- An address as the header of a redirection carries it. -/
def header (url : Text) : Text :=
  percentEncode kept url

end Url

/-! ## Counters -/

/-- The double quote. -/
def delimiter : CodePoint := '\x22'

/-- A character of a label value. `prometheus_client` escapes backslash, double quote and line
feed. -/
def escapeChar (c : CodePoint) : Text :=
  if c = '\\' then ['\\', '\\']
  else if c = delimiter then ['\\', delimiter]
  else if c = '\n' then ['\\', 'n']
  else [c]

/-- A label with its value. -/
def labelText (label : Text × Text) : Text :=
  label.1 ++ CodePoint.scalar '=' :: delimiter :: (label.2.flatMap escapeChar ++ [delimiter])

/-- The value of a counter. `prometheus_client` counts in floating point and writes numbers of seven
digits and more with an exponent, which it puts behind a zero. A count is exact as long as it stays
below `2 ^ 53`. -/
def countText (count : Nat) : Text :=
  let digits := Text.ofNat count
  if digits.length < 7 then digits ++ ".0"
  else
    dropTrailing (fun c => c = '0' || c = '.') (digits.take 1 ++ "." ++ digits.drop 1 ++ "0") ++
      "e+0" ++ Text.ofNat (digits.length - 1)

/-- The line of a counter with some labels. -/
def counterLine (counter : Text) (labels : List (Text × Text)) (count : Nat) : Text :=
  counter ++ "\x7b" ++ Text.join "," (labels.map labelText) ++ "\x7d " ++ countText count

end ListQuery.Framework
