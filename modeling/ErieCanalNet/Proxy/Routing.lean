import ErieCanalNet.Ctrl.PipyConf

/-!
# Routes of HTTP requests

`pipy/repo/codebase/proxy/modules/outbound-http-routing.js`: the handler of a service keeps, for
each method, the rules that allow it, in the order of the configuration, and takes the first that
matches the path and the headers of a request (`makeServiceHandler_eq`).
-/

namespace Proxy

open Ctrl Go

/-- What `new RegExp(pattern).test(text)` says. -/
abbrev RegExp := String → String → Bool

abbrev RouteRule := HTTPMatchRule × WeightedClusters

/-- The head of a request. -/
structure RequestHead where
  method : String
  path : String
  headers : Dict String := ∅

def allMethods : List String := ["GET", "HEAD", "POST", "PUT", "DELETE", "PATCH", "OPTIONS"]

def matchPath (regExp : RegExp) (config : HTTPMatchRule) (path : String) : Bool :=
  match config.type with
  | .pathMatchRegex => regExp config.path path
  | .pathMatchExact => path == config.path
  | .pathMatchPrefix => config.path.toList.isPrefixOf path.toList

/-- `config.Methods || allMethods`. -/
def allowedMethods (config : HTTPMatchRule) : List String :=
  if config.methods.isEmpty then allMethods else config.methods

/-- What `rule` says of a request. -/
def matchRule (regExp : RegExp) (config : HTTPMatchRule) (head : RequestHead) : Bool :=
  matchPath regExp config head.path &&
    config.headers.toList.all fun (k, v) => regExp v (head.headers.getD k "")

/-- `tree[method].push(rule)`. -/
def pushRule (rule : RouteRule) (tree : Dict (List RouteRule)) (method : String) :
    Dict (List RouteRule) :=
  tree.insert method (tree.getD method [] ++ [rule])

/-- `tree`. -/
def methodTree (rules : OutboundHTTPRouteRules) : Dict (List RouteRule) :=
  rules.foldl (fun tree rule => (allowedMethods rule.1).foldl (pushRule rule) tree) ∅

/-- `makeServiceHandler`: the rule that becomes the `__route` of a request. -/
def makeServiceHandler (regExp : RegExp) (rules : OutboundHTTPRouteRules) (head : RequestHead) :
    Option RouteRule :=
  (methodTree rules)[head.method]?.bind fun allowed =>
    allowed.find? fun rule => matchRule regExp rule.1 head

/-- The rules a request can take. -/
def takes (regExp : RegExp) (head : RequestHead) (rule : RouteRule) : Bool :=
  decide (head.method ∈ allowedMethods rule.1) && matchRule regExp rule.1 head

theorem getD_foldl_pushRule (rule : RouteRule) (methods : List String)
    (tree : Dict (List RouteRule)) (method : String) :
    (methods.foldl (pushRule rule) tree).getD method [] =
      tree.getD method [] ++ (methods.filter (· = method)).map fun _ => rule := by
  induction methods generalizing tree with
  | nil => simp
  | cons m methods ih =>
    rw [List.foldl_cons, ih, pushRule, Std.ExtTreeMap.getD_insert]
    by_cases hm : m = method
    · simp [hm]
    · simp [hm]

theorem getD_methodTree (rules : OutboundHTTPRouteRules) (method : String) :
    (methodTree rules).getD method [] =
      rules.flatMap fun rule => ((allowedMethods rule.1).filter (· = method)).map fun _ => rule := by
  suffices h : ∀ tree : Dict (List RouteRule),
      (rules.foldl (fun tree rule => (allowedMethods rule.1).foldl (pushRule rule) tree) tree).getD
        method [] = tree.getD method [] ++
          rules.flatMap fun rule =>
            ((allowedMethods rule.1).filter (· = method)).map fun _ => rule by
    simpa [methodTree] using h ∅
  induction rules with
  | nil => simp
  | cons rule rules ih => simp [ih, getD_foldl_pushRule]

/-- A rule that allows a method is found among the rules of the method, however often it names it. -/
theorem find?_filter_const {β : Type} (methods : List String) (method : String) (x : β)
    (p : β → Bool) : ((methods.filter (· = method)).map fun _ => x).find? p =
      if decide (method ∈ methods) && p x then some x else none := by
  induction methods with
  | nil => rfl
  | cons m methods ih =>
    by_cases hm : m = method
    · cases hx : p x <;> simp [hm, hx]
    · rw [List.filter_cons_of_neg (by simpa using hm), ih]
      simp [Ne.symm hm]

/-- **The first rule** a request can take is the one it takes. -/
theorem makeServiceHandler_eq (regExp : RegExp) (rules : OutboundHTTPRouteRules)
    (head : RequestHead) :
    makeServiceHandler regExp rules head = rules.find? (takes regExp head) := by
  have hbind : makeServiceHandler regExp rules head =
      ((methodTree rules).getD head.method []).find? fun rule => matchRule regExp rule.1 head := by
    rw [makeServiceHandler, Std.ExtTreeMap.getD_eq_getD_getElem?]
    cases (methodTree rules)[head.method]? <;> rfl
  rw [hbind, getD_methodTree]
  clear hbind
  induction rules with
  | nil => rfl
  | cons rule rules ih =>
    rw [List.flatMap_cons, List.find?_append, ih, find?_filter_const]
    change (if takes regExp head rule then some rule else none).or _ = _
    cases h : takes regExp head rule <;> simp [h]

end Proxy
