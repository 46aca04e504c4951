/-!
# Tokens

A token is one word of a directive's value. In a source list the keywords, the nonces and the
hashes stand in single quotes; the sandbox flags and the integrity types come from closed lists.
-/

namespace ContentPolicy

namespace Directive

def keywords : List String := ["self", "none", "unsafe-inline", "unsafe-eval", "strict-dynamic"]

/-- How the tokens that are nonces and hashes begin. -/
def quotedStarts : List String := ["nonce-", "sha256-", "sha384-", "sha512-"]

/-- The flags that lift a restriction of the sandbox. -/
def sandboxTokens : List String :=
  ["allow-forms", "allow-modals", "allow-orientation-lock", "allow-pointer-lock", "allow-popups",
    "allow-popups-to-escape-sandbox", "allow-presentation", "allow-same-origin", "allow-scripts",
    "allow-top-navigation"]

/-- The requirements that ask for integrity checks. -/
def sriValues : List String := ["script", "style", "script style"]

/-- Whether a token of a source list is written in single quotes. -/
def needsQuotes (token : String) : Bool :=
  token ∈ keywords || quotedStarts.any fun start => start.toList.isPrefixOf token.toList

def quote (token : String) : String :=
  if needsQuotes token then "'" ++ token ++ "'" else token

def isSandboxToken (token : String) : Bool := token ∈ sandboxTokens

def isSriValue (value : String) : Bool := value ∈ sriValues

/-- Quotes are added to no token that has them. -/
theorem needsQuotes_wrapped (token : String) : needsQuotes ("'" ++ token ++ "'") = false := by
  have wrapped : ("'" ++ token ++ "'").toList = '\x27' :: (token.toList ++ ['\x27']) := by
    simp [String.toList_append]
  have notKeyword : "'" ++ token ++ "'" ∉ keywords := by
    intro known
    have listed : ("'" ++ token ++ "'").toList ∈ keywords.map String.toList :=
      List.mem_map_of_mem known
    rw [wrapped] at listed
    simp [keywords] at listed
  simp only [needsQuotes, notKeyword, quotedStarts, wrapped, decide_false, Bool.false_or]
  rfl

theorem quote_of_needsQuotes {token : String} (bare : needsQuotes token = true) :
    quote token = "'" ++ token ++ "'" :=
  if_pos bare

theorem quote_of_not_needsQuotes {token : String} (finished : needsQuotes token = false) :
    quote token = token := by
  simp [quote, finished]

theorem needsQuotes_quote (token : String) : needsQuotes (quote token) = false := by
  cases bare : needsQuotes token with
  | false => rw [quote_of_not_needsQuotes bare, bare]
  | true => rw [quote_of_needsQuotes bare, needsQuotes_wrapped]

@[simp]
theorem quote_quote (token : String) : quote (quote token) = quote token :=
  quote_of_not_needsQuotes (needsQuotes_quote token)

end Directive

end ContentPolicy
