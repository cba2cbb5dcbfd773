import ListQuery.Framework

/-!
# Endpoints

The paths that the service answers: its own four, and those of the pages that its framework adds. A
path matches an endpoint also with one line feed at its end. A name in a path is a nonempty segment.
-/

namespace ListQuery.Service

open Framework (Page)

/-- What a path refers to. -/
inductive Endpoint where
  | metrics
  | health
  | resources
  | query (resource : Text)
  | page (shown : Page)
deriving Repr, DecidableEq

namespace Endpoint

/-- The path of an endpoint with a placeholder for the name in it, under which requests are
counted. -/
def template : Endpoint → Text
  | metrics => "/metrics"
  | health => "/health"
  | resources => "/resources"
  | query _ => "/resources/\x7bresource\x7d/query"
  | page shown => shown.path

/-- The label of requests that no endpoint answers. -/
def unmatched : Text := "unmatched"

/-- The methods that an endpoint answers. -/
def methods : Endpoint → List Text
  | page _ => Framework.plainMethods
  | _ => Framework.operationMethods

/-- The endpoint that the segments of a path refer to. -/
def ofSegments? : List Text → Option Endpoint
  | [root, name] =>
    if root ≠ [] then none
    else if name = "metrics" then some metrics
    else if name = "health" then some health
    else if name = "resources" then some resources
    else if name = "openapi.json" then some (page .description)
    else if name = "docs" then some (page .explorer)
    else if name = "redoc" then some (page .reference)
    else none
  | [root, collection, name] =>
    if root = [] && collection = "docs" && name = "oauth2-redirect" then some (page .authorization)
    else none
  | [root, collection, resource, action] =>
    if root = [] && collection = "resources" && Framework.isParameter resource && action = "query"
    then some (query resource)
    else none
  | _ => none

/-- The endpoint that a path refers to. -/
def ofPath? (path : Text) : Option Endpoint :=
  ofSegments? (Text.pieces '/' (Framework.dropLineFeed path))

/-- The path without the slashes at its end, if it has some and refers to an endpoint without
them. -/
def withoutTrailingSlashes? (path : Text) : Option Text :=
  (Framework.withoutSlashes? path).filter fun shorter => (ofPath? shorter).isSome

end Endpoint

end ListQuery.Service
