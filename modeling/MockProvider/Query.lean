import MockProvider.Dict.Basic
import MockProvider.Text.Basic
import MockProvider.Text.Percent

/-!
# Query strings

A query is a dictionary from keys to the values that they are given, in the order in which these
stand. `Query.parse` reads a query string and `Query.render` writes one. In a query string a plus
sign stands for a blank, and an escape for an octet.
-/

namespace MockProvider

/-- The values of each key of a query, in the order in which they stand. -/
abbrev Query := Dict (List String)

namespace Query

/-- The text with a blank for each plus sign. -/
def plusToBlank (s : String) : String :=
  String.ofList (s.toList.map fun c => if c = '+' then ' ' else c)

/-- What a key or value stands for; escapes that do not spell UTF-8 are left as they are. -/
def decode (raw : String) : String :=
  let spaced := plusToBlank raw
  (Percent.decode? spaced).getD spaced

/-- The parts before and after the first equals sign; without one the second part is empty. -/
def cutPair (pair : List Char) : String × String :=
  let key := pair.takeWhile (· != '=')
  let value := (pair.dropWhile (· != '=')).drop 1
  (decode (String.ofList key), decode (String.ofList value))

/-- The pairs of a query string in the order in which they stand; empty ones are passed over. -/
def pairs (text : String) : List (String × String) :=
  ((Text.splitChars '&' text.toList).filter (!·.isEmpty)).map cutPair

def add (query : Query) (key value : String) : Query :=
  Dict.alter query key fun values => values.getD [] ++ [value]

def parse (text : String) : Query :=
  (pairs text).foldl (fun query pair => add query pair.1 pair.2) Dict.empty

def renderPair (pair : String × String) : String :=
  Percent.encode pair.1 ++ "=" ++ Percent.encode pair.2

def toPairs (query : Query) : List (String × String) :=
  query.toList.flatMap fun (key, values) => values.map fun value => (key, value)

/-- Writes a query; a key without values leaves no trace. -/
def render (query : Query) : String :=
  Text.join "&" (query.toPairs.map renderPair)

end Query

end MockProvider
