import ContentPolicy.Proofs.Json.Members
import ContentPolicy.Proofs.Merge.Layers
import ContentPolicy.Proofs.OrderedMap.History

/-!
# Policies and their histories

Every operation on a policy is a run of elementary writes. A merge writes the entries of the
override in order, each with the value in which it joins what was held before; collecting entries,
reading a text and a replacing override start over and write what they are given. Whatever is done
to a policy, it therefore reflects the history of these writes.
-/

namespace ContentPolicy

open Directive Json OrderedMap

namespace Policy

/-- What can be done to a policy. -/
inductive Operation where
  /-- A write that gives back the value it replaces. -/
  | replace (name : String) (value : Value)
  | insert (name : String) (value : Value)
  /-- An erasure that gives back the value it removes. -/
  | take (name : String)
  | collect (entries : List (String × Value))
  | merge (overrides : Policy)
  | override (overrides : Policy)
  | read (text : String)

namespace Operation

/-- The policy after an operation; a text that writes no policy changes nothing. -/
def apply (policy : Policy) : Operation → Policy
  | .replace name value => (policy.replace name value).2
  | .insert name value => policy.insert name value
  | .take name => (policy.take name).2
  | .collect entries => .ofList entries
  | .merge overrides => policy.merge overrides
  | .override overrides => (policy.resolveOverride overrides).value
  | .read text =>
    match Policy.ofJson text with
    | .ok written => written
    | .error _ => policy

def puts (entries : List (String × Value)) : List (Write Value) :=
  entries.map fun entry => .put entry.1 entry.2

/-- The writes of some updates, each joined with what was held before. -/
def layers (before : String → Option Value) (updates : List (String × Value)) :
    List (Write Value) :=
  updates.map fun update => .put update.1 (merged (before update.1) update.2)

/-- The entries that a text writes as an object, if each of its members holds a value. -/
def objectEntries? (text : String) : Option (List (String × Value)) :=
  match (Document.ofJson text : Except (Failure Mismatch) Document) with
  | .ok (.object members) => entriesOf? members
  | _ => none

/-- The elementary writes of an operation on a policy that holds something before it. -/
def writes (before : String → Option Value) : Operation → List (Write Value)
  | .replace name value => [.put name value]
  | .insert name value => [.put name value]
  | .take name => [.drop name]
  | .collect entries => .clear :: puts entries
  | .merge overrides => layers before overrides.entries
  | .override overrides =>
    if overrides.replacesBase then .clear :: puts overrides.unmarked.entries
    else layers before overrides.unmarked.entries
  | .read text =>
    match objectEntries? text with
    | some entries => .clear :: puts entries
    | none => []

theorem foldl_apply_puts (policy : Policy) (entries : List (String × Value)) :
    (puts entries).foldl Write.apply policy = policy.insertMany entries := by
  rw [puts, List.foldl_map]
  rfl

theorem foldl_apply_clear_puts (policy : Policy) (entries : List (String × Value)) :
    (.clear :: puts entries : List (Write Value)).foldl Write.apply policy =
      OrderedMap.ofList entries := by
  rw [List.foldl_cons, foldl_apply_puts]
  rfl

/-- Updates under different names do not meet, so each joins what was held before all of them. -/
theorem foldl_apply_layers {updates : List (String × Value)}
    (nodup : (updates.map Prod.fst).Nodup) {policy : Policy} {before : String → Option Value}
    (same : ∀ update ∈ updates, policy.get? update.1 = before update.1) :
    (layers before updates).foldl Write.apply policy = updates.foldl mergeEntry policy := by
  induction updates generalizing policy with
  | nil => rfl
  | cons update rest ih =>
      rw [List.map_cons, List.nodup_cons] at nodup
      rw [List.forall_mem_cons] at same
      rcases nodup with ⟨fresh, nodupRest⟩
      have first : Write.apply policy (.put update.1 (merged (before update.1) update.2)) =
          policy.mergeEntry update := by
        rw [mergeEntry, same.1]
        rfl
      have sameRest : ∀ later ∈ rest, (policy.mergeEntry update).get? later.1 = before later.1 := by
        intro later member
        have different : later.1 ≠ update.1 := by
          intro meet
          exact fresh (meet ▸ List.mem_map_of_mem member)
        rw [get?_mergeEntry, if_neg different, same.2 later member]
      rw [layers, List.map_cons, List.foldl_cons, first]
      exact ih nodupRest sameRest

theorem ofJson_eq_ok_iff_objectEntries? {text : String} {policy : Policy} :
    Policy.ofJson text = .ok policy ↔
      ∃ entries, objectEntries? text = some entries ∧ policy = OrderedMap.ofList entries := by
  rw [ofJson_eq_ok_iff, objectEntries?]
  cases (Document.ofJson text : Except (Failure Mismatch) Document) with
  | error failure => simp
  | ok document => cases document <;> simp

/-- An operation does what its writes do. -/
theorem foldl_apply_writes {policy : Policy} {past : List (Write Value)}
    (follows : policy.Follows past) (operation : Operation) :
    (operation.writes (held past)).foldl Write.apply policy = operation.apply policy := by
  cases operation with
  | replace name value => rfl
  | insert name value => rfl
  | take name => rfl
  | collect entries => exact foldl_apply_clear_puts policy entries
  | merge overrides =>
      exact foldl_apply_layers overrides.nodup_keys fun update _ => follows.get?_eq update.1
  | override overrides =>
      simp only [writes, apply, resolveOverride, overriddenBy]
      split
      · rw [foldl_apply_clear_puts, ofList_entries]
      · exact foldl_apply_layers overrides.unmarked.nodup_keys fun update _ =>
          follows.get?_eq update.1
  | read text =>
      simp only [writes, apply]
      cases written : objectEntries? text with
      | some entries =>
          rw [ofJson_eq_ok_iff_objectEntries?.mpr ⟨entries, written, rfl⟩]
          exact foldl_apply_clear_puts policy entries
      | none =>
          cases result : Policy.ofJson text with
          | error failure => rfl
          | ok other =>
              rcases ofJson_eq_ok_iff_objectEntries?.mp result with ⟨entries, held, -⟩
              rw [written] at held
              cases held

end Operation

def run (operations : List Operation) : Policy :=
  operations.foldl Operation.apply OrderedMap.empty

def history (operations : List Operation) : List (Write Value) :=
  operations.foldl (fun past operation => past ++ operation.writes (held past)) []

theorem run_follows_history (operations : List Operation) :
    (run operations).Follows (history operations) := by
  -- From the end of the run: the last operation needs to know what its past leaves.
  induction operations using List.reverseRecOn with
  | nil => exact follows_empty
  | append_singleton earlier operation ih =>
      have step := ih.foldl_apply (operation.writes (held (history earlier)))
      rw [Operation.foldl_apply_writes ih] at step
      simpa [run, history] using step

/-- Whatever is done to a policy, it reflects the history of the elementary writes: each name once,
in the order of their latest arrivals, with what was last written to it. A write gives back what the
name held before and an erasure what it removes, and neither is seen under another name. Collecting
the entries of the policy gives the policy again. -/
theorem run_reflects_history (operations : List Operation) :
    (run operations).Reflects (history operations) ∧
      (∀ name value,
        ((run operations).replace name value).1 = held (history operations) name ∧
          ((run operations).replace name value).2.get? name = some value ∧
          SameElsewhere name (run operations) ((run operations).replace name value).2) ∧
      (∀ name,
        ((run operations).take name).1 = held (history operations) name ∧
          ((run operations).take name).2.get? name = none ∧
          SameElsewhere name (run operations) ((run operations).take name).2) ∧
      OrderedMap.ofList (run operations).entries = run operations := by
  have follows := run_follows_history operations
  refine ⟨follows.reflects, fun name value => ⟨follows.get?_eq name, ?_, ?_⟩,
    fun name => ⟨follows.get?_eq name, ?_, ?_⟩, ofList_entries _⟩
  · exact (get?_insert _ _ _ _).trans (if_pos rfl)
  · exact sameElsewhere_insert _ _ _
  · exact (get?_erase _ _ _).trans (if_pos rfl)
  · exact sameElsewhere_erase _ _

end Policy

end ContentPolicy
