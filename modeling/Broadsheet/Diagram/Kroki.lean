import Broadsheet.Diagram.Cache
import Broadsheet.Diagram.Svg
import Broadsheet.Document.Services

/-!
# Broadsheet.Diagram.Kroki

Rendering diagrams on a Kroki server.  An answer is checked and cleaned before
it is kept; the element id is set each time that a diagram is taken out.
-/

namespace Broadsheet

/-- A server that renders diagrams, and where rendered ones are kept. -/
structure Kroki (m : Type → Type) where
  serverUrl : String
  timeoutSecs : Nat
  cache : DiagramCache m

namespace Kroki

/-- The kind of diagram that the server is asked for. -/
def endpoint : String := "mermaid"

/-- The format that the server is asked for. -/
def format : String := "svg"

/-- The key of a source. -/
def key (source : String) : DiagramKey := ⟨source, endpoint, format⟩

/-- An address without slashes at its end. -/
def dropSlashes (url : List Char) : List Char := (url.reverse.dropWhile (· == '/')).reverse

/-- The address that requests go to. -/
def endpointUrl {m : Type → Type} (k : Kroki m) : String :=
  String.ofList (dropSlashes k.serverUrl.toList) ++ "/" ++ endpoint ++ "/" ++ format

/-- The request for a source. -/
def request {m : Type → Type} (k : Kroki m) (source : String) : HttpRequest where
  method := "POST"
  url := k.endpointUrl
  contentType := some "text/plain"
  body := source
  timeoutSecs := k.timeoutSecs

/-- The diagram in a server's answer. -/
def readResponse : Except String HttpResponse → Except DiagramFailure String
  | .error reason => .error (.http reason)
  | .ok r =>
    if 400 ≤ r.status then
      .error (.http ("HTTP " ++ toString r.status ++ ": " ++ r.body.toOption.getD ""))
    else match r.body with
      | .error reason => .error (.io reason)
      | .ok body =>
        if containsText "<svg" body then .ok (Svg.dropFontImportsText (trimText body))
        else .error .invalidSvg

/-- The diagram of a source, without an id, from the cache or from the server.  Only what the
server answered well is kept. -/
def fetch {m : Type → Type} [Monad m] (host : Host m) (k : Kroki m) (source : String) :
    m (Except DiagramFailure String) := do
  match ← k.cache.get? (key source) with
  | some svg => return .ok svg
  | none =>
    match readResponse (← host.send (k.request source)) with
    | .error e => return .error e
    | .ok svg =>
      k.cache.put (key source) svg
      return .ok svg

/-- Renders a source to an SVG whose root has an id. -/
def render {m : Type → Type} [Monad m] (host : Host m) (k : Kroki m) (source id : String) :
    m (Except DiagramError String) := do
  match ← k.fetch host source with
  | .error e => return .error ⟨id, e⟩
  | .ok svg =>
    match Svg.withIdText? svg id with
    | some s => return .ok s
    | none => return .error ⟨id, .invalidSvg⟩

end Kroki

end Broadsheet
