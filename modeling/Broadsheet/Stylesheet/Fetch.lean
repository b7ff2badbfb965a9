import Broadsheet.Host.Basic
import Broadsheet.Text.Search

/-!
# Broadsheet.Stylesheet.Fetch

Fetching the style sheets of highlighted code from a server.
-/

namespace Broadsheet

/-- Why a style sheet could not be fetched. -/
inductive FetchFailure
  | http (reason : String)
  | status (code : Nat)
  | body (reason : String)
  deriving DecidableEq

/-- A style sheet that could not be fetched. -/
structure FetchError where
  url : String
  failure : FetchFailure
  deriving DecidableEq

/-- The wording of the error. -/
def FetchError.message (e : FetchError) : String :=
  match e.failure with
  | .http reason => "HTTP error fetching " ++ e.url ++ ": " ++ reason
  | .status code => "HTTP " ++ toString code ++ " fetching " ++ e.url
  | .body reason => "Failed to read stylesheet from " ++ e.url ++ ": " ++ reason

/-- Where style sheets come from. -/
structure StylesheetSource where
  /-- The address, with `{theme}` in place of the style sheet's name. -/
  pattern : String
  timeoutSecs : Nat

namespace StylesheetSource

/-- The address of a style sheet. -/
def urlFor (s : StylesheetSource) (theme : String) : String :=
  replaceText "\x7btheme\x7d" theme s.pattern

/-- The request for a style sheet. -/
def request (s : StylesheetSource) (theme : String) : HttpRequest where
  method := "GET"
  url := s.urlFor theme
  contentType := none
  body := ""
  timeoutSecs := s.timeoutSecs

/-- The style sheet in a server's answer. -/
def readResponse : Except String HttpResponse → Except FetchFailure String
  | .error reason => .error (.http reason)
  | .ok r =>
    if 400 ≤ r.status then .error (.status r.status)
    else match r.body with
      | .error reason => .error (.body reason)
      | .ok text => .ok text

/-- Fetches a style sheet. -/
def fetch {m : Type → Type} [Monad m] (host : Host m) (s : StylesheetSource) (theme : String) :
    m (Except FetchError String) := do
  match readResponse (← host.send (s.request theme)) with
  | .ok text => return .ok text
  | .error e => return .error ⟨s.urlFor theme, e⟩

end StylesheetSource

end Broadsheet
