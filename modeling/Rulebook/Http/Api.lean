import Rulebook.Http.Target
import Rulebook.Display
import Rulebook.Json.Parser
import Rulebook.Validation.Scalars

/-!
# The HTTP interface

Requests and their answers. The interface shows the descriptors of a scope and compiled rule sets,
and decides whether an attribute is offered.

What a request gives in its path, its query and its body is validated together, and every issue is
reported. An error of the rule engine is a fault of the server that is described; any other failure
is one that is not.
-/

namespace Rulebook.Http

/-- A request. -/
structure Request where
  method : String
  target : Target
  body : String
  deriving Repr

/-- What an answer holds. -/
inductive Body where
  | json (value : Json)
  | text (s : String)
  /-- A page to be looked at. -/
  | page
  | nothing

/-- An answer. -/
structure Response where
  status : Nat
  body : Body

namespace Response

/-- An answer that succeeds. -/
def ok (value : Json) : Response := ⟨200, .json value⟩

/-- An answer with a short description of what is wrong. -/
def problem (status : Nat) (detail : String) : Response :=
  ⟨status, .json (.object [("detail", .text detail)])⟩

/-- The answer to a request that does not pass validation. -/
def invalid (issues : List Issue) : Response :=
  ⟨422, .json (.object [("detail", Issue.report issues)])⟩

/-- The answer to a request that failed. -/
def failed : Failure → Response
  | .rule e => ⟨500, .json (.object [("detail", .text e.message), ("error", .text e.name)])⟩
  | _ => ⟨500, .text "Internal Server Error"⟩

end Response

/-! ## Routes -/

/-- What a path leads to. -/
inductive Route where
  | health
  /-- The pages that describe the interface. -/
  | manual
  | descriptors (scope : String)
  | ruleSet (id : String)
  | attributeGroup (id : String)
  | attributeMatch (id : String)

/-- The route of a path. -/
def routeOf? (debug : Bool) (segments : List String) : Option Route :=
  match segments with
  | ["", "health"] => some .health
  | ["", "docs"] => if debug then some .manual else none
  | ["", "redoc"] => if debug then some .manual else none
  | ["", "docs", "oauth2-redirect"] => if debug then some .manual else none
  | ["", "api", "rules", scope, "descriptors"] =>
    if scope.isEmpty then none else some (.descriptors scope)
  | ["", "api", "rules", "rule-sets", id, "expression"] =>
    if id.isEmpty then none else some (.ruleSet id)
  | ["", "api", "rules", "attributes", id, "expression"] =>
    if id.isEmpty then none else some (.attributeGroup id)
  | ["", "api", "rules", "attributes", id, "matches"] =>
    if id.isEmpty then none else some (.attributeMatch id)
  | _ => none

/-- The methods that a route answers. -/
def Route.methods : Route → List String
  | .attributeMatch _ => ["POST"]
  | .manual => ["GET", "HEAD"]
  | _ => ["GET"]

/-- The path with a slash more or less at its end. -/
def otherEnding (segments : List String) : List String :=
  if segments.getLast? = some "" then (segments.reverse.dropWhile (·.isEmpty)).reverse
  else segments ++ [""]

/-! ## What requests give -/

/-- Reads a part of the path. -/
def pathPart {α : Type} (name : String) (read : Json → Checked α) (s : String) : Checked α :=
  .within (.member "path") (.within (.member name) (read (.text s)))

/-- Reads a value of the query that need not be there. -/
def queryPart {α : Type} (t : Target) (name : String) (default : α) (read : Json → Checked α) :
    Checked α :=
  match t.value? name with
  | none => .ok default
  | some s => .within (.member "query") (.within (.member name) (read (.text s)))

/-- The language that a query wants. -/
def languageOf (t : Target) : Checked (Option String) :=
  queryPart t "language" none fun j => some <$> Checked.text j

/-- Whether a query wants what is not active, too. -/
def includeHiddenOf (t : Target) : Checked Bool := queryPart t "include_hidden" false Checked.bool

/-- Reads a list of numbers. -/
def numbers : Json → Checked (List Int)
  | .array js => Checked.items Checked.int 0 js
  | _ => .fault .listType

/-- Puts the numbers selected for an attribute; later ones replace earlier ones. -/
def putSelected (selection : Attribute.Selection) (id : Int) (values : List Int) :
    Attribute.Selection :=
  (id, .list (values.map .int)) :: selection.filter fun e => e.1 ≠ id

/-- Reads the members of a selection, each name a number. -/
def selectionMembers : List (String × Json) → Checked (List (Int × List Int))
  | [] => .ok []
  | (name, value) :: rest =>
    let key := (Checked.intOfText name).within (.member "[key]") |>.within (.member name)
    (fun id values more => (id, values) :: more) <$> key <*>
      (numbers value).within (.member name) <*> selectionMembers rest

/-- Reads a selection. -/
def selection : Json → Checked Attribute.Selection
  | .object ms =>
    (fun es => es.foldl (fun s e => putSelected s e.1 e.2) []) <$> selectionMembers ms
  | _ => .fault .dictType

/-- What a request to decide about an attribute gives. -/
structure MatchRequest where
  productId : Option Int
  selection : Attribute.Selection
  override : Option Connective

/-- Reads a request to decide about an attribute. -/
def matchRequest (j : Json) : Checked MatchRequest :=
  match j with
  | .null => .fault .missing
  | .object _ =>
    MatchRequest.mk <$> Checked.optional "product_id" none (Checked.nullable Checked.int) j <*>
      Checked.optional "selected_values" [] selection j <*>
      Checked.optional "logical_operator" none
        (Checked.nullable (Checked.choice Connective.ofName?)) j
  | _ => .fault .modelAttributesType

/-- The body of a request as JSON, nothing being `null`. -/
def bodyJson (r : Request) : Except Response Json :=
  let text := if r.body.toList.head? = some (Char.ofNat 0xFEFF) then
    String.ofList (r.body.toList.drop 1) else r.body
  if r.body.isEmpty then .ok .null
  else match Json.parse text with
    | .ok j => .ok j
    -- the place is counted in the text without its mark
    | .error (.malformed position) =>
      .error (.invalid [⟨[.member "body", .item position], .jsonInvalid⟩])
    | .error .tooManyDigits => .error (.problem 400 "There was an error parsing the body")

/-! ## Answers -/

/-- The interface: the engine, and what it tells of itself. -/
structure Api where
  engine : Engine
  version : String
  debug : Bool

namespace Api

/-- The interface of the settings. -/
def ofSettings (s : Settings) : Api := ⟨.ofSettings s, s.appVersion, s.debug⟩

/-- Goes on with what a request gives if it passes validation. -/
def withChecked {α : Type} (api : Api) (x : Checked α) (go : α → Api × Response) : Api × Response :=
  match x with
  | .ok a => go a
  | .issues found => (api, .invalid found)

/-- The answer of a result. -/
def respond {α : Type} (r : Result α) (write : α → Response) : Response :=
  match r with
  | .ok a => write a
  | .error f => .failed f

/-- The JSON form of a compiled rule set, if there is one. -/
def groupJson (g : Option Group) : Json := (g.map fun g => g.toExpr.toJson).getD .null

/-- The descriptors of a scope. -/
def descriptors (api : Api) (s : Store) (scope : String) : Api × Response :=
  api.withChecked (pathPart "scope" (Checked.choice Scope.ofName?) scope) fun scope =>
    let (e, found) := api.engine.listDescriptors s scope.name
    ({ api with engine := e },
      respond found fun ds => .ok (.array (ds.map Descriptor.toJson)))

/-- A rule set for display. -/
def ruleSet (api : Api) (s : Store) (t : Target) (id : String) : Api × Response :=
  api.withChecked ((fun id hidden language => (id, hidden, language)) <$>
      pathPart "rule_set_id" Checked.int id <*> includeHiddenOf t <*> languageOf t)
    fun (id, hidden, language) =>
      let (e, shown) := api.engine.showRuleSet s id hidden language
      ({ api with engine := e }, respond shown fun
        | .notFound => .problem 404 "Rule set not found"
        | .inactive => .problem 404 "Rule set is inactive"
        | .group g => .ok (groupJson (some g)))

/-- Goes on with an attribute if the store has it. -/
def withAttribute (api : Api) (s : Store) (id : Int)
    (go : VariantAttribute → Api × Response) : Api × Response :=
  match s.findAttribute id with
  | .error f => (api, .failed f)
  | .ok none => (api, .problem 404 "Attribute not found")
  | .ok (some a) => go a

/-- The rule set of an attribute for display. -/
def attributeGroup (api : Api) (s : Store) (t : Target) (id : String) : Api × Response :=
  api.withChecked (Prod.mk <$> pathPart "attribute_id" Checked.int id <*> includeHiddenOf t)
    fun (id, hidden) => api.withAttribute s id fun a =>
      let o := Attribute.displayGroup (api.engine.compiler s) (api.engine.annotator s) a hidden
      ({ api with engine := api.engine.settle s o.asked },
        respond o.result fun g => .ok (groupJson g))

/-- Whether an attribute is offered. -/
def attributeMatch (api : Api) (s : Store) (r : Request) (id : String) : Api × Response :=
  match bodyJson r with
  | .error refused => (api, refused)
  | .ok body =>
    api.withChecked (Prod.mk <$> pathPart "attribute_id" Checked.int id <*>
        (matchRequest body).within (.member "body"))
      fun (id, wish) => api.withAttribute s id fun a =>
        let o := Attribute.matches? (api.engine.compiler s) (some a) wish.selection wish.override
        ({ api with engine := api.engine.settle s o.asked },
          respond o.result fun b =>
            .ok (.object [("attribute_id", .int id), ("matches", .bool b)]))

/-- Follows a route. -/
def follow (api : Api) (s : Store) (r : Request) : Route → Api × Response
  | .health =>
    (api, .ok (.object [("status", .text "healthy"), ("version", .text api.version)]))
  | .manual => (api, ⟨200, .page⟩)
  | .descriptors scope => api.descriptors s scope
  | .ruleSet id => api.ruleSet s r.target id
  | .attributeGroup id => api.attributeGroup s r.target id
  | .attributeMatch id => api.attributeMatch s r id

/-- Answers a request. A path that leads somewhere but for a slash at its end is sent there. -/
def answer (api : Api) (s : Store) (r : Request) : Api × Response :=
  let segments := r.target.segments
  match routeOf? api.debug segments with
  | some route =>
    if route.methods.contains r.method then api.follow s r route
    else (api, .problem 405 "Method Not Allowed")
  -- a path but for the slash at its end is sent on
  | none =>
    if r.target.path ≠ "/" && (routeOf? api.debug (otherEnding segments)).isSome then
      (api, ⟨307, .nothing⟩)
    else (api, .problem 404 "Not Found")

end Api

end Rulebook.Http
