import CrossAudit.Text.Casing
import CrossAudit.Text.Search
import CrossAudit.Text.Word

/-!
# The words of the HTTP surface

Names by which source code declares routes, issues requests and asks for authentication.  A name
may be followed by one final line feed where a whole text is asked for.
-/

namespace CrossAudit
namespace Http

/-- The request methods. -/
def methods : List String :=
  ["GET", "POST", "PUT", "PATCH", "DELETE", "HEAD", "OPTIONS"]

/-- Whether a word is a request method in upper case. -/
def isMethod (word : String) : Bool :=
  methods.contains word

/-- The request methods in lower case. -/
def lowerMethods : List String :=
  ["get", "post", "put", "patch", "delete", "head", "options"]

/-! ## Receivers -/

/-- Names of objects that declare routes. -/
def serverNames : List String :=
  ["app", "application", "server", "fastify", "bp", "blueprint", "api_router"]

/-- Names of objects that issue requests. -/
def clientNames : List String :=
  ["axios", "http", "https", "httpClient", "http_client", "api", "apiClient", "api_client",
    "client", "request", "requests", "httpx", "session", "ky", "$http", "fetcher", "superagent"]

/-- A word that ends in "router" or "Router". -/
def isRouterName (cs : List Char) : Bool :=
  ["router", "Router"].any fun ending =>
    match Chars.before? ending.toList cs with
    | some lead => lead.all Text.isWord
    | none => false

/-- Whether an object declares routes: `app`, `router`, and their like. -/
def isServerObject (name : String) : Bool :=
  Chars.holdsToEnd (fun cs => serverNames.contains (String.ofList cs) || isRouterName cs)
    name.toList

/-- Whether an object issues requests: `axios`, `requests`, and their like. -/
def isClientObject (name : String) : Bool :=
  Chars.holdsToEnd (fun cs => clientNames.contains (String.ofList cs)) name.toList

/-! ## Authentication -/

/-- Words in a request's options that carry credentials. -/
def authMarkers : List String :=
  ["authorization", "bearer", "token", "auth", "apikey", "api-key", "api_key", "credentials",
    "cookie"]

/-- Words in a route's middleware that check credentials. -/
def authGuards : List String :=
  ["auth", "jwt", "token", "passport", "login", "protect", "guard", "verify", "session",
    "current_user", "security", "oauth"]

/-- Decorators that check credentials. -/
def authDecorators : List String :=
  ["login_required", "jwt_required", "auth_required", "requires_auth", "token_required",
    "authenticated", "permission_required", "roles_required", "fresh_jwt_required"]

/-- Whether one of some words occurs in a text, whatever its case there. -/
def mentions (words : List String) (text : String) : Bool :=
  words.any fun w => Chars.occursFolded w.toList text.toList

/-- Whether request options carry credentials. -/
def hasAuthMarker (text : String) : Bool :=
  mentions authMarkers text

/-- Whether middleware checks credentials. -/
def hasAuthGuard (text : String) : Bool :=
  mentions authGuards text

/-- Whether no word character stands in front. -/
def atWordEnd (cs : List Char) : Bool :=
  match cs with
  | [] => true
  | c :: _ => !Text.isWord c

/-- Whether a decorator checks credentials: it starts with one of the names, as a whole word. -/
def isAuthDecorator (text : String) : Bool :=
  authDecorators.any fun w =>
    match Chars.afterFolded? w.toList text.toList with
    | some rest => atWordEnd rest
    | none => false

end Http
end CrossAudit
