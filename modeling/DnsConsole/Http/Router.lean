import DnsConsole.Http.Message

/-!
# Routers

A service answers requests.  A router puts services together: it has routes, each for one path, services
for everything below a path, and a fallback.  A path is compared as it was sent, so that a path with
escapes is none of the routes.

A layer is put around all that a router holds when the layer is added, and around nothing that comes
later.  A route completes its answer outside of its layers: a refusal names the methods that are known, a
length that is known is told, and HEAD leaves out the content.
-/

namespace DnsConsole.Http

/-- What answers requests. -/
abbrev Service := Request → Response

/-- What is put around a service. -/
abbrev Layer := Service → Service

/-- What answers at one path: requests that ask for content, and all others. -/
structure Route where
  content : Service
  refusal : Service

namespace Route

/-- The route of a content. -/
def get (content : Service) : Route :=
  ⟨content, fun _ => .empty 405 []⟩

/-- A route with a layer around it. -/
def layer (f : Layer) (r : Route) : Route :=
  ⟨f r.content, f r.refusal⟩

/-- The answer of a route. -/
def answer (r : Route) (request : Request) : Response :=
  if request.asksContent then (r.content request).measured.answering request
  else ((r.refusal request).addHeaders Response.knownMethods).measured

end Route

/-- Routes, services for everything below a path, and what answers everywhere else. -/
structure Router where
  routes : List (List Char × Route)
  nested : List (List Char × Service)
  fallback : Service

namespace Router

/-- What is behind a path, as a path of its own. -/
def below? (front path : List Char) : Option (List Char) :=
  if path = front then some ['/']
  else if (front ++ ['/']).isPrefixOf path then some (path.drop front.length)
  else none

/-- The service that sees a path without its front. -/
def behind (front : List Char) (service : Service) : Service := fun request =>
  match below? front request.target.path with
  | some path => service { request with target := { request.target with path := path } }
  | none => service request

/-- The router that finds nothing. -/
def empty : Router :=
  ⟨[], [], fun _ => .notFound⟩

/-- A router with a route added. -/
def route (router : Router) (path : String) (r : Route) : Router :=
  { router with routes := router.routes ++ [(path.toList, r)] }

/-- A router with a service for everything below a path. -/
def nestService (router : Router) (path : String) (service : Service) : Router :=
  { router with nested := router.nested ++ [(path.toList, behind path.toList service)] }

/-- A router with another fallback. -/
def fallbackService (router : Router) (service : Service) : Router :=
  { router with fallback := service }

/-- Two routers in one.  The first has no fallback of its own, so that the fallback is that of the
second. -/
def merge (router other : Router) : Router :=
  ⟨router.routes ++ other.routes, router.nested ++ other.nested, other.fallback⟩

/-- A router with a layer around everything that it holds. -/
def layer (router : Router) (f : Layer) : Router :=
  ⟨router.routes.map fun p => (p.1, p.2.layer f), router.nested.map fun p => (p.1, f p.2),
    f router.fallback⟩

/-- The answer of a router. -/
def answer (router : Router) (request : Request) : Response :=
  match router.routes.lookup request.target.path with
  | some r => r.answer request
  | none =>
    match router.nested.find? fun p => (below? p.1 request.target.path).isSome with
    | some (_, service) => service request
    | none => router.fallback request

end Router

end DnsConsole.Http
