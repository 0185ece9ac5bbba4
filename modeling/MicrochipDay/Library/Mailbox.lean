import Mathlib.Data.List.AList

/-!
Owns the matching of messages to requests by a key: a message that arrives before it
is asked for is parked under its key.

`Holds` says which messages the parked entries and the stream still have. Two moves
keep it: the message that arrives next is parked, and one that is parked is taken out.
-/

namespace MicrochipDay.Library.Mailbox

universe u v

variable {Key : Type u} {Content : Type v} {Message : Type*}

/-- What is parked for a message. -/
def entry (keyOf : Message → Key) (content : Message → Content) (message : Message) :
    Sigma fun _ : Key => Content :=
  ⟨keyOf message, content message⟩

/-- These messages, of different keys, are the ones that are parked or still arriving. -/
structure Holds (keyOf : Message → Key) (content : Message → Content)
    (parked : AList fun _ : Key => Content) (arriving messages : List Message) : Prop where
  all : (parked.entries ++ arriving.map (entry keyOf content)).Perm
    (messages.map (entry keyOf content))
  distinct : (messages.map keyOf).Nodup

variable {keyOf : Message → Key} {content : Message → Content}
  {parked : AList fun _ : Key => Content} {arriving messages : List Message}

/-- At first nothing is parked. -/
theorem holds_empty (all : arriving.Perm messages) (distinct : (messages.map keyOf).Nodup) :
    Holds keyOf content ∅ arriving messages :=
  ⟨all.map (entry keyOf content), distinct⟩

namespace Holds

/-- In the end nothing is left. -/
theorem empty (holds : Holds keyOf content parked arriving []) :
    parked = ∅ ∧ arriving = [] := by
  obtain ⟨noEntry, noMessage⟩ := List.append_eq_nil_iff.mp holds.all.eq_nil
  exact ⟨AList.ext noEntry, List.map_eq_nil_iff.mp noMessage⟩

/-- No two entries, parked or arriving, have one key. -/
theorem nodup_keys (holds : Holds keyOf content parked arriving messages) :
    (parked.keys ++ arriving.map keyOf).Nodup := by
  have keys := holds.all.map Sigma.fst
  rw [List.map_append, List.map_map, List.map_map] at keys
  exact keys.symm.nodup holds.distinct

/-- A message that is not parked is still to arrive. -/
theorem arrives {message : Message}
    (holds : Holds keyOf content parked arriving (message :: messages))
    (notYet : keyOf message ∉ parked) : ∃ next later, arriving = next :: later := by
  apply List.exists_cons_of_ne_nil
  rintro rfl
  have inside : entry keyOf content message ∈ parked.entries := by
    have all := holds.all
    rw [List.map_nil, List.append_nil] at all
    exact all.mem_iff.mpr List.mem_cons_self
  exact notYet (List.mem_map_of_mem (f := Sigma.fst) inside)

section Moves

variable [DecidableEq Key]

/-- The message that arrives next is parked. -/
theorem park {next : Message}
    (holds : Holds keyOf content parked (next :: arriving) messages) :
    Holds keyOf content (parked.insert (keyOf next) (content next)) arriving messages := by
  have new : keyOf next ∉ parked := by
    intro isParked
    have different := (List.nodup_append.mp holds.nodup_keys).2.2
    exact different _ (AList.mem_keys.mp isParked) _ List.mem_cons_self rfl
  have moved : ((parked.insert (keyOf next) (content next)).entries ++
      arriving.map (entry keyOf content)).Perm
        (parked.entries ++ (next :: arriving).map (entry keyOf content)) := by
    rw [AList.entries_insert_of_notMem new]
    exact List.perm_middle.symm
  exact ⟨moved.trans holds.all, holds.distinct⟩

/-- What is parked under the key of a message is that message, and can be taken out. -/
theorem take {message : Message}
    (holds : Holds keyOf content parked arriving (message :: messages))
    (isParked : keyOf message ∈ parked) :
    parked.lookup (keyOf message) = some (content message) ∧
      Holds keyOf content (parked.erase (keyOf message)) arriving messages := by
  obtain ⟨found, front, back, -, entries, erased⟩ := List.exists_of_kerase isParked
  have first :
      (⟨keyOf message, found⟩ :: (front ++ back ++ arriving.map (entry keyOf content))).Perm
        (entry keyOf content message :: messages.map (entry keyOf content)) := by
    have all := holds.all
    rw [entries, List.append_assoc, List.cons_append] at all
    rw [List.append_assoc]
    exact List.perm_middle.symm.trans all
  have same : (⟨keyOf message, found⟩ : Sigma fun _ : Key => Content) =
      entry keyOf content message := by
    rcases List.mem_cons.mp (first.subset List.mem_cons_self) with same | other
    · exact same
    · -- no other message has the key
      obtain ⟨other, isOther, equal⟩ := List.mem_map.mp other
      have new := (List.nodup_cons.mp holds.distinct).1
      have key : keyOf other = keyOf message := congrArg Sigma.fst equal
      exact absurd (key ▸ List.mem_map_of_mem isOther) new
  rw [same] at first entries
  refine ⟨AList.mem_lookup_iff.mpr ?_, ?_, (List.nodup_cons.mp holds.distinct).2⟩
  · rw [entries]
    exact List.mem_append_right front List.mem_cons_self
  · show (List.kerase (keyOf message) parked.entries ++ _).Perm _
    rw [erased]
    exact first.cons_inv

end Moves

end Holds

end MicrochipDay.Library.Mailbox
