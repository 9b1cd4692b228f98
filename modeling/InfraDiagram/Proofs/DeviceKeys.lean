import InfraDiagram.Proofs.Precedence
import Mathlib.Data.List.Induction

/-!
# The keys of devices

A device stands at its own key in the node map, and what stood there before makes room for it. Only
another device does not: where an id was used twice, the second device stands at a numbered key, and
it stays there when a device is declared whose id is that key.

## Main definitions

- `NodeMap.device?` — the device that stands at a key
- `DeviceAtKey` — what stands at the key of a device, and when it is that device

## Main statements

- `Canvas.Entered.device?_of_some`, `device?_enterAll_of_some` — a device stays at its key
- `device?_enterAll_split` — the first device of a key gets it if no other device has it
- `deviceAtKey_of_run` — what stands at the key of every device that was declared
- `not_ownsKey_parked` — a device whose key is held by the second device of another id
-/

namespace InfraDiagram

open Dot

-- ════════════════════════════════════════════════════════════════════════
-- One entry
-- ════════════════════════════════════════════════════════════════════════

/-- The device that stands at a key; an entry of another sort does not count. -/
def NodeMap.device? (m : NodeMap) (key : String) : Option NodeRef :=
  (m.find? key).filter fun ref => ref.entityType.isDevice

theorem NodeMap.device?_eq_some_iff {m : NodeMap} {key : String} {ref : NodeRef} :
    m.device? key = some ref ↔ m.find? key = some ref ∧ ref.entityType.isDevice = true :=
  Option.filter_eq_some_iff

/-- In a map with distinct keys, the devices at keys are those among the entries. -/
theorem NodeMap.device?_eq_some_iff_mem {m : NodeMap} (hm : m.keys.Nodup) {key : String}
    {ref : NodeRef} :
    m.device? key = some ref ↔ (key, ref) ∈ m.entries ∧ ref.entityType.isDevice = true := by
  rw [device?_eq_some_iff, find?_eq_some_iff hm]

namespace Canvas

variable {m m' : NodeMap} {key k : String} {ref r : NodeRef}

/-- No entry takes the key of a device. -/
theorem Entered.device?_of_some (he : Entered m key ref m') (hm : m.keys.Nodup)
    (h : m.device? k = some r) : m'.device? k = some r := by
  obtain ⟨hmem, hr⟩ := (NodeMap.device?_eq_some_iff_mem hm).1 h
  refine (NodeMap.device?_eq_some_iff_mem (he.nodup_keys hm)).2 ⟨?_, hr⟩
  cases he with
  | free _ hperm => exact hperm.mem_iff.2 (List.mem_cons_of_mem _ hmem)
  | displacing hfind _ hprevious _ _ hperm =>
    -- the entry that makes room is no device, so it is not the one at `k`
    rcases List.mem_cons.1 ((NodeMap.erase_perm hm hfind).mem_iff.1 hmem) with heq | hrest
    · cases heq
      rw [hr] at hprevious
      exact Bool.noConfusion hprevious
    · exact hperm.mem_iff.2 (by simp [hrest])
  | numbered _ _ _ _ hperm => exact hperm.mem_iff.2 (List.mem_cons_of_mem _ hmem)

/-- A device gets its own key unless another device stands there. -/
theorem Entered.device?_own (he : Entered m key ref m') (hm : m.keys.Nodup)
    (hdevice : ref.entityType.isDevice = true) :
    m'.device? key = (m.device? key).or (some ref) := by
  have hnew : (key, ref) ∈ m'.entries → m'.device? key = some ref := fun hmem =>
    (NodeMap.device?_eq_some_iff_mem (he.nodup_keys hm)).2 ⟨hmem, hdevice⟩
  cases hold : m.device? key with
  | some r => exact he.device?_of_some hm hold
  | none =>
    rw [Option.none_or]
    cases he with
    | free _ hperm => exact hnew (hperm.mem_iff.2 (by simp))
    | displacing _ _ _ _ _ hperm => exact hnew (hperm.mem_iff.2 (by simp))
    | numbered hfind hyields _ _ _ =>
      -- an entry that does not make room for a device is one itself
      have hsome := NodeMap.device?_eq_some_iff.2 ⟨hfind, hyields hdevice⟩
      rw [hold] at hsome
      cases hsome

/-- A device that comes in stands at its own key or at a number of it. -/
theorem Entered.device?_cases (he : Entered m key ref m') (hm : m.keys.Nodup)
    (h : m'.device? k = some r) :
    m.device? k = some r ∨ r = ref ∧ ref.entityType.isDevice = true ∧
      (k = key ∨ ∃ n, 2 ≤ n ∧ k = numberedKey key n) := by
  obtain ⟨hmem, hr⟩ := (NodeMap.device?_eq_some_iff_mem (he.nodup_keys hm)).1 h
  have hold : (k, r) ∈ m.entries → m.device? k = some r := fun hentry =>
    (NodeMap.device?_eq_some_iff_mem hm).2 ⟨hentry, hr⟩
  cases he with
  | free _ hperm =>
    rcases List.mem_cons.1 (hperm.mem_iff.1 hmem) with heq | hrest
    · cases heq
      exact .inr ⟨rfl, hr, .inl rfl⟩
    · exact .inl (hold hrest)
  | displacing hfind _ hprevious _ _ hperm =>
    rcases List.mem_cons.1 (hperm.mem_iff.1 hmem) with heq | hmem
    · cases heq
      exact .inr ⟨rfl, hr, .inl rfl⟩
    rcases List.mem_cons.1 hmem with heq | hrest
    · cases heq
      rw [hr] at hprevious
      exact Bool.noConfusion hprevious
    · exact .inl (hold ((NodeMap.erase_perm hm hfind).mem_iff.2 (List.mem_cons_of_mem _ hrest)))
  | @numbered _ n _ _ hn _ hperm =>
    rcases List.mem_cons.1 (hperm.mem_iff.1 hmem) with heq | hrest
    · cases heq
      exact .inr ⟨rfl, hr, .inr ⟨n, hn, rfl⟩⟩
    · exact .inl (hold hrest)

end Canvas

-- ════════════════════════════════════════════════════════════════════════
-- All entries of a run
-- ════════════════════════════════════════════════════════════════════════

theorem enterAll_cons (m : NodeMap) (call : Call) (calls : List Call) :
    enterAll m (call :: calls) =
      enterAll (Canvas.enter m call.1.key (Canvas.refOf call.1 call.2)) calls := rfl

theorem enterAll_append (m : NodeMap) (calls calls' : List Call) :
    enterAll m (calls ++ calls') = enterAll (enterAll m calls) calls' :=
  List.foldl_append

theorem nodup_keys_enterAll {m : NodeMap} (hm : m.keys.Nodup) (calls : List Call) :
    (enterAll m calls).keys.Nodup := by
  induction calls generalizing m with
  | nil => exact hm
  | cons call calls ih => exact ih ((Canvas.enter_cases m _ _).nodup_keys hm)

theorem nodup_keys_empty : NodeMap.empty.keys.Nodup :=
  List.nodup_nil

/-- A device stays at its key whatever is declared after it. -/
theorem device?_enterAll_of_some {m : NodeMap} (hm : m.keys.Nodup) (calls : List Call)
    {k : String} {r : NodeRef} (h : m.device? k = some r) :
    (enterAll m calls).device? k = some r := by
  induction calls generalizing m with
  | nil => exact h
  | cons call calls ih =>
    have he := Canvas.enter_cases m call.1.key (Canvas.refOf call.1 call.2)
    exact ih (he.nodup_keys hm) (he.device?_of_some hm h)

/-- The first device of a key gets it, unless another device stands there by then. -/
theorem device?_enterAll_split {m : NodeMap} (hm : m.keys.Nodup) (before after : List Call)
    {d : Declaration} (hdevice : d.entity.isDevice = true) (id : String) :
    (enterAll m (before ++ (d, id) :: after)).device? d.key =
      ((enterAll m before).device? d.key).or (some (Canvas.refOf d id)) := by
  have hbefore := nodup_keys_enterAll hm before
  have he := Canvas.enter_cases (enterAll m before) d.key (Canvas.refOf d id)
  obtain ⟨r, hr⟩ : ∃ r, ((enterAll m before).device? d.key).or (some (Canvas.refOf d id)) =
      some r := by
    cases (enterAll m before).device? d.key <;> exact ⟨_, rfl⟩
  rw [enterAll_append, enterAll_cons, hr]
  exact device?_enterAll_of_some (he.nodup_keys hbefore) after
    ((he.device?_own hbefore hdevice).trans hr)

/-- A device that stands at a key was declared under it, or the key is a number of its own. -/
theorem exists_call_of_device? {calls : List Call} {k : String} {r : NodeRef}
    (h : (enterAll .empty calls).device? k = some r) :
    ∃ call ∈ calls, r = Canvas.refOf call.1 call.2 ∧ call.1.entity.isDevice = true ∧
      (k = call.1.key ∨ ∃ n, 2 ≤ n ∧ k = Canvas.numberedKey call.1.key n) := by
  -- the last declaration is the one whose entry comes in last
  induction calls using List.reverseRecOn with
  | nil => simp [enterAll, NodeMap.device?, NodeMap.find?, NodeMap.empty] at h
  | append_singleton calls call ih =>
    rw [enterAll_append] at h
    have he := Canvas.enter_cases (enterAll .empty calls) call.1.key
      (Canvas.refOf call.1 call.2)
    rcases he.device?_cases (nodup_keys_enterAll nodup_keys_empty calls) h with hold | hnew
    · obtain ⟨other, hother, hr⟩ := ih hold
      exact ⟨other, List.mem_append_left _ hother, hr⟩
    · exact ⟨call, by simp, hnew⟩

-- ════════════════════════════════════════════════════════════════════════
-- What stands at the key of a device
-- ════════════════════════════════════════════════════════════════════════

/-- What stands at the key of a device. The first declaration of the key is `d`, it got the
    identifier `id`, and `before` are the declarations ahead of it. -/
structure DeviceAtKey (c : Canvas) (before : List Call) (d : Declaration) (id : String)
    (ref : NodeRef) : Prop where
  /-- The table of devices has the first declaration. -/
  table : c.lookupDevice d.key = some id
  find : c.nodeMap.find? d.key = some ref
  /-- No anchor, port, site or note stands at the key. -/
  device : ref.entityType.isDevice = true
  /-- The first device of the key stands there exactly if no device had the key before. -/
  own_iff : c.lookup d.key = c.lookupDevice d.key ↔
    (enterAll .empty before).device? d.key = none
  own : c.lookup d.key = c.lookupDevice d.key → ref = Canvas.refOf d id
  /-- Otherwise a device stands there of whose id the key is a number. -/
  parked : c.lookup d.key ≠ c.lookupDevice d.key →
    ∃ call ∈ before, call.1.entity.isDevice = true ∧ ref = Canvas.refOf call.1 call.2 ∧
      ∃ n, 2 ≤ n ∧ d.key = Canvas.numberedKey call.1.key n

theorem Canvas.Accounts.deviceAtKey {c : Canvas} {before after : List Call} {d : Declaration}
    {id : String} (h : c.Accounts (before ++ (d, id) :: after))
    (hmap : c.nodeMap = enterAll .empty (before ++ (d, id) :: after))
    (hdevice : d.entity.isDevice = true)
    (hfirst : ∀ call ∈ before, call.1.entity.isDevice = true → call.1.key ≠ d.key) :
    ∃ ref, DeviceAtKey c before d id ref := by
  have htable : c.lookupDevice d.key = some id := by
    refine h.lookupDevice_eq_some_iff.2 ⟨before, d, after, rfl, hdevice, rfl, ?_⟩
    exact fun call hcall hkey => Bool.eq_false_iff.2 fun hother => hfirst call hcall hother hkey
  have hsplit := device?_enterAll_split nodup_keys_empty before after hdevice id
  rw [← hmap] at hsplit
  cases hbefore : (enterAll .empty before).device? d.key with
  | none =>
    rw [hbefore, Option.none_or] at hsplit
    obtain ⟨hfind, href⟩ := NodeMap.device?_eq_some_iff.1 hsplit
    have hlookup : c.lookup d.key = c.lookupDevice d.key := by
      rw [Canvas.lookup, hfind, htable]
      rfl
    exact ⟨_, {
      table := htable
      find := hfind
      device := href
      own_iff := ⟨fun _ => hbefore, fun _ => hlookup⟩
      own := fun _ => rfl
      parked := fun hne => absurd hlookup hne }⟩
  | some ref =>
    rw [hbefore, Option.some_or] at hsplit
    obtain ⟨hfind, href⟩ := NodeMap.device?_eq_some_iff.1 hsplit
    obtain ⟨call, hcall, heq, hcallDevice, hkey⟩ := exists_call_of_device? hbefore
    have hne : c.lookup d.key ≠ c.lookupDevice d.key := by
      rw [Canvas.lookup, hfind, htable, heq]
      intro hsame
      -- the two are different declarations, so they have different identifiers
      have hcalls : call = (d, id) :=
        h.call_unique (List.mem_append_left _ hcall) (by simp) (Option.some.inj hsame)
      exact hfirst call hcall hcallDevice (by rw [hcalls])
    exact ⟨ref, {
      table := htable
      find := hfind
      device := href
      own_iff := ⟨fun hlookup => absurd hlookup hne, fun hnone => by simp [hbefore] at hnone⟩
      own := fun hlookup => absurd hlookup hne
      parked := fun _ => ⟨call, hcall, hcallDevice, heq,
        hkey.resolve_left (hfirst call hcall hcallDevice).symm⟩ }⟩

/-- **What stands at the key of a device.** After every sequence of steps, a device stands at each
    key under which one was declared. It is the first one of the key, as the table of devices has
    it, exactly if no other device had come to stand there before; and such another device has an
    id of which the key is a number. -/
theorem deviceAtKey_of_run (es : List Event) {key : String}
    (h : ∃ call ∈ (logOf es .blank).calls, call.1.entity.isDevice = true ∧ call.1.key = key) :
    ∃ before d id after ref, (logOf es .blank).calls = before ++ (d, id) :: after ∧
      d.key = key ∧ d.entity.isDevice = true ∧
      (∀ call ∈ before, call.1.entity.isDevice = true → call.1.key ≠ key) ∧
      DeviceAtKey (run es .blank) before d id ref := by
  obtain ⟨⟨d, id⟩, hfind⟩ : ∃ call, (logOf es .blank).calls.find?
      (fun call => call.1.entity.isDevice && call.1.key == key) = some call := by
    rw [← Option.isSome_iff_exists, List.find?_isSome]
    obtain ⟨call, hcall, hdevice, hkey⟩ := h
    exact ⟨call, hcall, by simp [hdevice, hkey]⟩
  obtain ⟨hd, before, after, hcalls, hbefore⟩ := List.find?_eq_some_iff_append.1 hfind
  simp only [Bool.and_eq_true, beq_iff_eq] at hd
  obtain ⟨hdevice, rfl⟩ := hd
  have hfirst : ∀ call ∈ before, call.1.entity.isDevice = true → call.1.key ≠ d.key := by
    intro call hcall hcallDevice hkey
    simpa [hcallDevice, hkey] using hbefore call hcall
  have haccounts := Canvas.accounts_run es
  have hmap := nodeMap_run es .blank
  rw [hcalls] at haccounts hmap
  obtain ⟨ref, href⟩ := haccounts.deviceAtKey hmap hdevice hfirst
  exact ⟨before, d, id, after, ref, hcalls, rfl, hdevice, hfirst, href⟩

/-- The frame of a rack whose anchor has the key that a device wants for itself. -/
def anchoredSteps : List Event :=
  [.opening "1" .empty, .node ⟨"rack_1", .rack, "1", ["1"], .empty⟩,
    .node ⟨"rack_1", .server, "rack_1", ["s"], .empty⟩]

theorem deviceAtKey_anchored :
    (run anchoredSteps .blank).nodeMap.keys = ["rack_1", "rack_1#2"] ∧
    (∃ call ∈ (logOf anchoredSteps .blank).calls,
      call.1.entity.isDevice = true ∧ call.1.key = "rack_1") ∧
    ∃ before d id after ref, (logOf anchoredSteps .blank).calls = before ++ (d, id) :: after ∧
      d.key = "rack_1" ∧ d.entity.isDevice = true ∧
      (∀ call ∈ before, call.1.entity.isDevice = true → call.1.key ≠ "rack_1") ∧
      DeviceAtKey (run anchoredSteps .blank) before d id ref := by
  have hdeclared : ∃ call ∈ (logOf anchoredSteps .blank).calls,
      call.1.entity.isDevice = true ∧ call.1.key = "rack_1" := by decide +kernel
  exact ⟨by decide +kernel, hdeclared, deviceAtKey_of_run anchoredSteps hdeclared⟩

/-- Two devices of one id, and a third one whose id is the key of the second. -/
def parked : Mapping :=
  [("topology", .mapping [("devices", .list [.text "a", .text "a", .text "a#2"])])]

/-- The third device does not get its key, although it is the first one with that id. -/
theorem not_ownsKey_parked :
    (∃ g, generate (.mapping parked) .standard = .ok g ∧
      (g.nodeMap.find? "a#2").map (·.graphNodeId) = some "a_2" ∧
      (g.nodeMap.find? "a#2#2").map (·.graphNodeId) = some "\"a#2\"") ∧
    ¬ ∀ (es : List Event) (key : String),
      (∃ call ∈ (logOf es .blank).calls, call.1.entity.isDevice = true ∧ call.1.key = key) →
      (run es .blank).lookup key = (run es .blank).lookupDevice key := by
  constructor
  · have hmap : ((generate (.mapping parked) .standard).toOption.map fun g =>
        ((g.nodeMap.find? "a#2").map (·.graphNodeId),
          (g.nodeMap.find? "a#2#2").map (·.graphNodeId))) = some (some "a_2", some "\"a#2\"") := by
      decide +kernel
    obtain ⟨g, hg, hmap⟩ := exists_of_toOption_map hmap
    exact ⟨g, hg, Prod.mk.inj hmap⟩
  · intro howns
    have hsame := howns (["a", "a", "a#2"].map fun id => .node ⟨id, .device, id, [id], .empty⟩)
      "a#2" (by decide +kernel)
    revert hsame
    decide +kernel

end InfraDiagram
