import Montage.Address.Url
import Montage.Worker.Description

/-!
# Pages

What the worker answers to a request without a form.

* `Page.ofLocation` — the page at a location; percent coding and dot segments are undone first.
* `Page.read` — a page as JSON, which some pages are not.

A path with a slash too many leads to an empty page that points to the right one.
-/

namespace Montage

/-- What a page holds: a value, or a text of its own. -/
inductive PageContent where
  | value (j : Json)
  | text (t : String)

/-- A status and what comes with it. -/
structure Page where
  status : Nat
  content : PageContent

namespace Page

/-- Where the worker tells that it is there. -/
def healthPath : String := "/health"

/-- Where forms are sent to. -/
def formPath : String := "/process"

/-- Descriptions of the worker for people. -/
def manualPaths : List String := ["/docs", "/docs/oauth2-redirect", "/redoc"]

/-- The description of the worker for programs. -/
def descriptionPath : String := "/openapi.json"

/-- All paths that the worker knows. -/
def paths : List String := healthPath :: formPath :: descriptionPath :: manualPaths

/-- A page with one member. -/
def saying (status : Nat) (key words : String) : Page :=
  ⟨status, .value (.obj [(key, .str words)])⟩

/-- The answer of a worker that is there. -/
def healthy : Page := saying 200 "status" "ok"

/-- The answer where a form would have to be sent. -/
def wrongMethod : Page := saying 405 "detail" "Method Not Allowed"

/-- The answer where there is nothing. -/
def notFound : Page := saying 404 "detail" "Not Found"

/-- The answer of a worker that is asked what it does. -/
def description : Page := ⟨200, .value Description.document⟩

/-- The answer where only a slash at the end is missing or too much. -/
def elsewhere : Page := ⟨307, .text ""⟩

/-- How the pages for people begin. -/
def manual : Page := ⟨200, .text "\n    <!DOCTYPE html>"⟩

/-- Whether a path is the given one; a line feed after it makes no difference. -/
def leadsTo (path wanted : String) : Bool := path = wanted || path = wanted ++ "\n"

/-- A path with the slashes at its end removed, or with one where it had none. -/
def otherSlash (path : String) : String :=
  if path.endsWith "/" then String.ofList (Text.dropEndWhile (· == '/') path.toList)
  else path ++ "/"

/-- The page at a path. -/
def ofPath (path : String) : Page :=
  if leadsTo path healthPath then healthy
  else if leadsTo path formPath then wrongMethod
  else if leadsTo path descriptionPath then description
  else if manualPaths.any (leadsTo path) then manual
  else if path ≠ "/" && paths.any (leadsTo (otherSlash path)) then elsewhere
  else notFound

/-- The path that a location stands for.  One without a host belongs to the worker. -/
def pathOf (u : Url) : Except Fault String := do
  let cs ← if u.isAbsolute then pure u.path.toList
    else (u.rooted.mapError UrlProblem.fault).map fun r => Url.normalPath r.path.toList
  return String.ofList (Percent.decode (if cs.isEmpty then ['/'] else cs))

/-- The page at an address, of which only the path counts. -/
def ofLocation (location : String) : Except Fault Page := do
  let u ← (Url.ofText location).mapError UrlProblem.fault
  if u.isAbsolute then u.checkSite
  return ofPath (← pathOf u)

/-- A page as JSON. -/
def read (p : Page) : Except Fault Json :=
  match p.content with
  | .value j => .ok j
  | .text t => (Json.parse t).mapError .badJson

end Page

end Montage
