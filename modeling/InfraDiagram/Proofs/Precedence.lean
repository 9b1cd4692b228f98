import InfraDiagram.Proofs.Addressing

/-!
# What comes first

Two tables answer for a token. The table of devices keeps the first device of a key for ever, while
entries of the node map make room for others and move to numbered keys. The first table counts: a
token that is the key of a device means the first one whatever else was declared under this key,
before it or after it.

## Main definitions

- `IsFirst` — the device that was declared first under a key
- `Answers` — what a name means after some declarations, case by case

## Main statements

- `Canvas.Accounts.lookupDevice_eq_some_iff` — the table of devices by the declarations
- `Canvas.Accounts.resolve_eq_iff` — what a token means on a canvas
- `answers_of_run` — what a token means after any steps, and what it means from then on
-/

namespace InfraDiagram

open Dot

/-- A node that was declared for a device under a key, before all others of this kind. -/
def IsFirst (calls : List Call) (key id : String) : Prop :=
  ∃ before d after, calls = before ++ (d, id) :: after ∧ d.entity.isDevice = true ∧ d.key = key ∧
    ∀ call ∈ before, call.1.key = key → call.1.entity.isDevice = false

/-- No device was declared under a key. -/
def HasNoDevice (calls : List Call) (key : String) : Prop :=
  ∀ call ∈ calls, call.1.key = key → call.1.entity.isDevice = false

/-- The first device stays the first whatever is declared after it. -/
theorem IsFirst.append {calls : List Call} {key id : String} (h : IsFirst calls key id)
    (later : List Call) : IsFirst (calls ++ later) key id := by
  obtain ⟨before, d, after, rfl, hdevice⟩ := h
  exact ⟨before, d, after ++ later, by simp, hdevice⟩

namespace Canvas.Accounts

variable {c : Canvas} {calls : List Call}

theorem lookupDevice_eq_some_iff (h : c.Accounts calls) {key id : String} :
    c.lookupDevice key = some id ↔ IsFirst calls key id := by
  rw [lookupDevice, h.devices, Option.map_eq_some_iff]
  constructor
  · rintro ⟨⟨d, id⟩, hfirst, rfl⟩
    obtain ⟨hd, before, after, hcalls, hbefore⟩ := List.find?_eq_some_iff_append.1 hfirst
    simp only [Bool.and_eq_true, beq_iff_eq] at hd
    exact ⟨before, d, after, hcalls, hd.1, hd.2, fun call hcall hkey => by
      simpa [hkey] using hbefore call hcall⟩
  · rintro ⟨before, d, after, hcalls, hdevice, hkey, hbefore⟩
    refine ⟨(d, id), List.find?_eq_some_iff_append.2 ⟨by simp [hdevice, hkey], before, after,
      hcalls, fun call hcall => ?_⟩, rfl⟩
    by_cases hother : call.1.key = key
    · simp [hbefore call hcall hother]
    · simp [hother]

theorem lookupDevice_eq_none_iff (h : c.Accounts calls) {key : String} :
    c.lookupDevice key = none ↔ HasNoDevice calls key := by
  rw [lookupDevice, h.devices, Option.map_eq_none_iff, List.find?_eq_none]
  refine forall₂_congr fun call _ => ?_
  cases call.1.entity.isDevice <;> simp

end Canvas.Accounts

/-- What a name means after some declarations, for candidates that go by their types: nothing, the
    first device under the name, any other node under it, or the first device under the id of the
    first candidate of this type. -/
inductive Answers (calls : List Call) (m : NodeMap) (candidates : List (String × String))
    (name : String) : Except Unresolved Resolved → Prop where
  | placeholder (h : name = "" ∨ name = "undefined") : Answers calls m candidates name
      (.error .placeholder)
  | device {id : String} (hname : name ≠ "" ∧ name ≠ "undefined") (h : IsFirst calls name id) :
      Answers calls m candidates name (.ok ⟨id, name⟩)
  | node {ref : NodeRef} (hname : name ≠ "" ∧ name ≠ "undefined")
      (hdevice : HasNoDevice calls name) (h : (name, ref) ∈ m.entries) :
      Answers calls m candidates name (.ok ⟨ref.graphNodeId, name⟩)
  | byType {front back : List (String × String)} {key id : String}
      (hname : name ≠ "" ∧ name ≠ "undefined") (hdevice : HasNoDevice calls name)
      (hkey : name ∉ m.keys) (hcandidates : candidates = front ++ (key, name) :: back)
      (hfront : ∀ candidate ∈ front, candidate.2 ≠ name) (h : IsFirst calls key id) :
      Answers calls m candidates name (.ok ⟨id, key⟩)
  | typeNotDrawn {front back : List (String × String)} {key : String}
      (hname : name ≠ "" ∧ name ≠ "undefined") (hdevice : HasNoDevice calls name)
      (hkey : name ∉ m.keys) (hcandidates : candidates = front ++ (key, name) :: back)
      (hfront : ∀ candidate ∈ front, candidate.2 ≠ name) (h : HasNoDevice calls key) :
      Answers calls m candidates name (.error .typeNotDrawn)
  | noMatch (hname : name ≠ "" ∧ name ≠ "undefined") (hdevice : HasNoDevice calls name)
      (hkey : name ∉ m.keys) (h : ∀ candidate ∈ candidates, candidate.2 ≠ name) :
      Answers calls m candidates name (.error .noMatch)

theorem isPlaceholder_eq_false_iff {token : String} :
    isPlaceholder token = false ↔ Text.trim token ≠ "" ∧ Text.trim token ≠ "undefined" := by
  simp [isPlaceholder]

theorem Canvas.lookup_eq_none_iff {c : Canvas} {key : String} :
    c.lookup key = none ↔ key ∉ c.nodeMap.keys := by
  rw [lookup, Option.map_eq_none_iff, NodeMap.find?_eq_none_iff]

namespace Canvas.Accounts

variable {c : Canvas} {calls : List Call} {r : Resolver} {token : String}
  {result : Except Unresolved Resolved}

theorem find?_candidates {front back : List (String × String)} {key name : String}
    (hcandidates : r.candidates = front ++ (key, name) :: back)
    (hfront : ∀ candidate ∈ front, candidate.2 ≠ name) :
    (r.candidates.find? fun candidate => candidate.2 == name) = some (key, name) :=
  List.find?_eq_some_iff_append.2 ⟨by simp, front, back, hcandidates, by simpa using hfront⟩

theorem resolve_of_answers (h : c.Accounts calls)
    (ha : Answers calls c.nodeMap r.candidates (Text.trim token) result) :
    r.resolve token c = result := by
  cases ha with
  | placeholder hname => simp [Resolver.resolve, isPlaceholder, hname]
  | device hname hfirst =>
    exact Resolver.resolve_of_lookupDevice (isPlaceholder_eq_false_iff.2 hname)
      (h.lookupDevice_eq_some_iff.2 hfirst)
  | @node ref hname hdevice hentry =>
    have hlookup : c.lookup (Text.trim token) = some ref.graphNodeId := by
      rw [lookup, (NodeMap.find?_eq_some_iff h.keys).2 hentry]
      rfl
    simp [Resolver.resolve, isPlaceholder_eq_false_iff.2 hname,
      h.lookupDevice_eq_none_iff.2 hdevice, hlookup]
  | byType hname hdevice hkey hcandidates hfront hfirst =>
    rw [Resolver.resolve_of_type (isPlaceholder_eq_false_iff.2 hname)
      (h.lookupDevice_eq_none_iff.2 hdevice) (lookup_eq_none_iff.2 hkey)
      (find?_candidates hcandidates hfront)]
    simp only [h.lookupDevice_eq_some_iff.2 hfirst]
  | typeNotDrawn hname hdevice hkey hcandidates hfront hnone =>
    rw [Resolver.resolve_of_type (isPlaceholder_eq_false_iff.2 hname)
      (h.lookupDevice_eq_none_iff.2 hdevice) (lookup_eq_none_iff.2 hkey)
      (find?_candidates hcandidates hfront)]
    simp only [h.lookupDevice_eq_none_iff.2 hnone]
  | noMatch hname hdevice hkey hnone =>
    have hfind : (r.candidates.find? fun candidate => candidate.2 == Text.trim token) = none := by
      rw [List.find?_eq_none]
      simpa using hnone
    simp [Resolver.resolve, isPlaceholder_eq_false_iff.2 hname,
      h.lookupDevice_eq_none_iff.2 hdevice, lookup_eq_none_iff.2 hkey, hfind]

/-- There is a case for every name. -/
theorem exists_answers (h : c.Accounts calls) (candidates : List (String × String))
    (name : String) : ∃ result, Answers calls c.nodeMap candidates name result := by
  by_cases hplaceholder : name = "" ∨ name = "undefined"
  · exact ⟨_, .placeholder hplaceholder⟩
  have hname := not_or.1 hplaceholder
  cases hdevice : c.lookupDevice name with
  | some id => exact ⟨_, .device hname (h.lookupDevice_eq_some_iff.1 hdevice)⟩
  | none =>
    rw [h.lookupDevice_eq_none_iff] at hdevice
    by_cases hkey : name ∈ c.nodeMap.keys
    · obtain ⟨⟨_, ref⟩, hentry, rfl⟩ := List.mem_map.1 hkey
      exact ⟨_, .node hname hdevice hentry⟩
    cases hcandidate : candidates.find? fun candidate => candidate.2 == name with
    | none =>
      exact ⟨_, .noMatch hname hdevice hkey (by simpa using hcandidate)⟩
    | some candidate =>
      obtain ⟨htype, front, back, hcandidates, hfront⟩ := List.find?_eq_some_iff_append.1 hcandidate
      obtain ⟨key, type⟩ := candidate
      obtain rfl : type = name := by simpa using htype
      have hothers : ∀ candidate ∈ front, candidate.2 ≠ type := by simpa using hfront
      cases hdrawn : c.lookupDevice key with
      | some id =>
        exact ⟨_, .byType hname hdevice hkey hcandidates hothers
          (h.lookupDevice_eq_some_iff.1 hdrawn)⟩
      | none =>
        exact ⟨_, .typeNotDrawn hname hdevice hkey hcandidates hothers
          (h.lookupDevice_eq_none_iff.1 hdrawn)⟩

theorem resolve_eq_iff (h : c.Accounts calls) :
    r.resolve token c = result ↔
      Answers calls c.nodeMap r.candidates (Text.trim token) result := by
  refine ⟨?_, h.resolve_of_answers⟩
  rintro rfl
  obtain ⟨result, hresult⟩ := h.exists_answers r.candidates (Text.trim token)
  rwa [h.resolve_of_answers hresult]

/-- The identifiers of declarations are those of the nodes of the finished diagram. -/
theorem mem_declaredIds_finish (h : c.Accounts calls) {id : String} :
    id ∈ c.finish.graph.declaredIds ↔ id ∈ c.declared := by
  have hids : (c.allNodes.map (·.id)).Perm (calls.map Prod.snd) := by
    have hnodes := h.nodes.map Prod.snd
    rwa [List.map_map, List.map_map] at hnodes
  rw [Graph.declaredIds, (c.allNodes_finish.map _).mem_iff, hids.mem_iff, h.declared,
    List.mem_reverse]

end Canvas.Accounts

/-- **What comes first.** After any steps, a token means what these cases say and nothing else; what
    it means is declared; and a token that means a device means it after any further steps, too. -/
theorem answers_of_run (es : List Event) (r : Resolver) (token : String) :
    (∀ result, r.resolve token (run es .blank) = result ↔
      Answers (logOf es .blank).calls (run es .blank).nodeMap r.candidates (Text.trim token)
        result) ∧
    (∀ found, r.resolve token (run es .blank) = .ok found →
      found.graphId ∈ (run es .blank).declared ∧
        found.graphId ∈ (run es .blank).finish.graph.declaredIds) ∧
    ∀ id, IsFirst (logOf es .blank).calls (Text.trim token) id →
      Text.trim token ≠ "" ∧ Text.trim token ≠ "undefined" → ∀ later, ∀ r' : Resolver,
        r'.resolve token (run (es ++ later) .blank) = .ok ⟨id, Text.trim token⟩ := by
  have hc := Canvas.accounts_run es
  refine ⟨fun result => hc.resolve_eq_iff, fun found hfound => ?_, ?_⟩
  · have hdeclared := Resolver.graphId_mem_declared hc.knowsIds hfound
    exact ⟨hdeclared, hc.mem_declaredIds_finish.2 hdeclared⟩
  · intro id hfirst hname later r'
    refine (Canvas.accounts_run (es ++ later)).resolve_of_answers (.device hname ?_)
    rw [logOf_append, Log.calls_append]
    exact hfirst.append _

/-- A node of one sort under a key. -/
def nodeUnder (entity : EntityType) (key : String) : Declaration :=
  ⟨key, entity, key, [], .empty⟩

/-- A rack, a server and a peer under one key, and a port under another. -/
def sharedKeys : List Event :=
  [nodeUnder .rack "a", nodeUnder .server "a", nodeUnder .peer "a", nodeUnder .port "b"].map .node

theorem answers_sharedKeys :
    Resolver.resolve ⟨[]⟩ " a " (run (sharedKeys ++ [.node (nodeUnder .site "a")]) .blank) =
      .ok ⟨"a_2", "a"⟩ ∧
    Resolver.resolve ⟨[("c", "switch")]⟩ "switch" (run sharedKeys .blank) = .error .typeNotDrawn ∧
    Resolver.resolve ⟨[]⟩ "b" (run sharedKeys .blank) = .ok ⟨"b", "b"⟩ ∧
    "b" ∈ (run sharedKeys .blank).finish.graph.declaredIds := by
  have hcalls : (logOf sharedKeys .blank).calls =
      [(nodeUnder .rack "a", "a"), (nodeUnder .server "a", "a_2"), (nodeUnder .peer "a", "a_3"),
        (nodeUnder .port "b", "b")] := by
    decide +kernel
  have hname : Text.trim " a " = "a" := by decide +kernel
  have hfirst : IsFirst (logOf sharedKeys .blank).calls (Text.trim " a ") "a_2" := by
    rw [hcalls, hname]
    exact ⟨[_], _, [_, _], rfl, rfl, rfl, by simp [nodeUnder, EntityType.isDevice]⟩
  obtain ⟨-, -, hstays⟩ := answers_of_run sharedKeys ⟨[]⟩ " a "
  obtain ⟨hanswer, -, -⟩ := answers_of_run sharedKeys ⟨[("c", "switch")]⟩ "switch"
  obtain ⟨-, hdeclared, -⟩ := answers_of_run sharedKeys ⟨[]⟩ "b"
  have hport : Resolver.resolve ⟨[]⟩ "b" (run sharedKeys .blank) = .ok ⟨"b", "b"⟩ := by
    decide +kernel
  refine ⟨?_, (hanswer _).2 ?_, hport, (hdeclared _ hport).2⟩
  · have hlater := hstays "a_2" hfirst (by decide +kernel) [.node (nodeUnder .site "a")] ⟨[]⟩
    rwa [hname] at hlater
  · have hswitch : Text.trim "switch" = "switch" := by decide +kernel
    have hkeys : (run sharedKeys .blank).nodeMap.keys = ["a", "a#2", "a#3", "b"] := by
      decide +kernel
    rw [hswitch]
    have hcandidates : [("c", "switch")] = [] ++ ("c", "switch") :: [] := rfl
    refine .typeNotDrawn (by decide) ?_ ?_ hcandidates (by simp) ?_
    · rw [hcalls]
      simp [HasNoDevice, nodeUnder]
    · rw [hkeys]
      decide
    · rw [hcalls]
      simp [HasNoDevice, nodeUnder]

end InfraDiagram
