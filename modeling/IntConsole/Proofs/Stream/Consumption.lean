import IntConsole.Proofs.Stream.Signals

/-!
This module contains the account of what is taken from an input on the way from one state to a later
one: the bytes that are read and the events that are taken. The main statement is the account of a
run.
-/

namespace IntConsole

def Event.reported? : Event → Option Fault
  | fault f => if f.kind = .interrupted then none else some f
  | _ => none

def Event.reported (es : List Event) : List Fault :=
  es.filterMap Event.reported?

@[simp]
theorem Event.reported_append (es fs : List Event) :
    reported (es ++ fs) = reported es ++ reported fs :=
  List.filterMap_append

def Sight.fault? : Sight → Option Fault
  | fault f => some f
  | _ => none

theorem Sight.fault?_eq_none {sight : Sight} (h : ∀ f, sight ≠ .fault f) : sight.fault? = none := by
  cases sight with
  | byte => rfl
  | endOfInput => rfl
  | fault f => exact absurd rfl (h f)

theorem Event.reported_eq_nil {es : List Event} {sight : Sight}
    (h : reported es = sight.fault?.toList) (hfault : ∀ f, sight ≠ .fault f) :
    reported es = [] := by
  rw [h, Sight.fault?_eq_none hfault]
  rfl

namespace Input

structure Consumes (s : Input) (bs : List UInt8) (es : List Event) (t : Input) : Prop where
  pending_eq : s.pending = es ++ t.pending
  bytes_eq : s.chunk ++ es.flatMap Event.bytes = bs ++ t.chunk
  position_eq : t.position = s.position + bs.length

namespace Consumes

theorem refl (s : Input) : s.Consumes [] [] s := by
  constructor <;> simp

theorem trans {s t u : Input} {bs cs : List UInt8} {es fs : List Event} (h : s.Consumes bs es t)
    (h' : t.Consumes cs fs u) : s.Consumes (bs ++ cs) (es ++ fs) u := by
  constructor
  . rw [h.pending_eq, h'.pending_eq, List.append_assoc]
  . rw [List.flatMap_append, ← List.append_assoc, h.bytes_eq, List.append_assoc, h'.bytes_eq,
      List.append_assoc]
  . rw [h'.position_eq, h.position_eq, List.length_append, Nat.add_assoc]

theorem data_eq {s t : Input} {bs : List UInt8} {es : List Event} (h : s.Consumes bs es t) :
    s.data = bs ++ t.data := by
  rw [data, data, h.pending_eq, List.flatMap_append, ← List.append_assoc, h.bytes_eq,
    List.append_assoc]

theorem position_add_length_data {s t : Input} {bs : List UInt8} {es : List Event}
    (h : s.Consumes bs es t) : t.position + t.data.length = s.position + s.data.length := by
  rw [h.position_eq, h.data_eq, List.length_append]
  omega

theorem unique {s t : Input} {bs cs : List UInt8} {es fs : List Event} (h : s.Consumes bs es t)
    (h' : s.Consumes cs fs t) : bs = cs ∧ es = fs := by
  have hevents : es = fs := by
    apply List.append_cancel_right
    rw [← h.pending_eq, h'.pending_eq]
  refine ⟨?_, hevents⟩
  apply List.append_cancel_right
  rw [← h.bytes_eq, hevents, h'.bytes_eq]

theorem advance {s : Input} {b : UInt8} {rest : List UInt8} (h : s.chunk = b :: rest) :
    s.Consumes [b] [] s.advance := by
  constructor <;> simp [Input.advance, h]

end Consumes

theorem readWhile.consumes_go (p : UInt8 → Bool) (position : Nat) (es : List Event) :
    ∃ taken, taken.head? = es.head? ∧ es = taken ++ (go p position es).rest.pending
      ∧ taken.flatMap Event.bytes = (go p position es).bytes ++ (go p position es).rest.chunk
      ∧ Event.reported taken = (go p position es).sight.fault?.toList
      ∧ ∀ f, (go p position es).sight = .fault f → taken.getLast? = some (.fault f) := by
  fun_induction go p position es with
  | case1 => exact ⟨[], rfl, rfl, rfl, rfl, by simp⟩
  | case2 position bs es h run ih =>
    obtain ⟨taken, -, hpending, hbytes, hreported, hlast⟩ := ih
    refine ⟨.data bs :: taken, rfl, ?_, ?_, hreported, ?_⟩
    . rw [List.cons_append, ← hpending]
    . rw [List.flatMap_cons, hbytes, ← List.append_assoc]
      rfl
    . intro f hf
      rw [List.getLast?_cons, hlast f hf]
      rfl
  | case3 position bs es b rest h run =>
    refine ⟨[.data bs], rfl, rfl, ?_, rfl, by simp⟩
    rw [← h, List.flatMap_singleton]
    exact List.takeWhile_append_dropWhile.symm
  | case4 => exact ⟨[.endOfInput], rfl, rfl, rfl, rfl, by simp⟩
  | case5 position f es h ih =>
    obtain ⟨taken, -, hpending, hbytes, hreported, hlast⟩ := ih
    refine ⟨.fault f :: taken, rfl, ?_, hbytes, ?_, ?_⟩
    . rw [List.cons_append, ← hpending]
    . rw [← hreported, Event.reported, List.filterMap_cons_none]
      . rfl
      . rw [Event.reported?, if_pos h]
    . intro g hg
      rw [List.getLast?_cons, hlast g hg]
      rfl
  | case6 position f es h =>
    refine ⟨[.fault f], rfl, rfl, rfl, ?_, ?_⟩
    . rw [Event.reported, List.filterMap_cons_some]
      . rfl
      . rw [Event.reported?, if_neg h]
    . intro g hg
      cases hg
      rfl

theorem consumes_readWhile (p : UInt8 → Bool) (s : Input) :
    ∃ taken, s.Consumes (s.readWhile p).bytes taken (s.readWhile p).rest
      ∧ Event.reported taken = (s.readWhile p).sight.fault?.toList
      ∧ ∀ f, (s.readWhile p).sight = .fault f → taken.getLast? = some (.fault f) := by
  obtain ⟨taken, hhead, hpending, hbytes, hreported, hlast⟩ :=
    readWhile.consumes_go p s.position (.data s.chunk :: s.pending)
  -- The first of these events is the current chunk, which is not pending any more.
  cases taken with
  | nil => cases hhead
  | cons e taken =>
    obtain rfl : e = .data s.chunk := by simpa using hhead
    refine ⟨taken, ⟨?_, hbytes, position_readWhile p s⟩, hreported, ?_⟩
    . exact List.tail_eq_of_cons_eq hpending
    . intro f hf
      have := hlast f hf
      cases taken with
      | nil => cases this
      | cons => exact this

theorem bytes_look (s : Input) : s.look.bytes = [] := by
  rw [List.eq_nil_iff_forall_not_mem]
  intro b hb
  have := of_mem_bytes_readWhile hb
  cases this

theorem consumes_look (s : Input) :
    ∃ taken, s.Consumes [] taken s.look.rest ∧ Event.reported taken = s.look.sight.fault?.toList
      ∧ ∀ f, s.look.sight = .fault f → taken.getLast? = some (.fault f) := by
  have := s.consumes_readWhile fun _ => false
  rw [← look, bytes_look] at this
  exact this

end Input

end IntConsole
