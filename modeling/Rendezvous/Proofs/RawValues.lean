/-
# Values are kept as they were written

The reader of a frame collects the octets of a value without looking at what they
mean. Every value in a frame is therefore a piece of the text that the frame was read
from, and so is the data of every notice that a request makes known.
-/

import Rendezvous.Request

namespace Rendezvous

namespace Json

/-- The octets of the value that is being read, the latest first. -/
def FramePhase.raw? : FramePhase → Option Octets
  | .beforeValue _ => some []
  | .value _ _ raw => some raw
  | _ => none

namespace Reader

/-- What one octet does to the values that a reader keeps. -/
inductive Keeps (reader next : Reader) (octet : UInt8) : Prop
  /-- No value goes on. -/
  | idle (members : next.members = reader.members)
    (fresh : next.phase.raw? = none ∨ next.phase.raw? = some [])
  /-- The octet is one of the value. -/
  | more {raw : Octets} (before : reader.phase.raw? = some raw)
    (members : next.members = reader.members)
    (longer : next.phase.raw? = some (octet :: raw))
  /-- The value ends, before the octet or with it. -/
  | ends {key raw whole : Octets} (before : reader.phase.raw? = some raw)
    (last : whole = raw ∨ whole = octet :: raw)
    (members : next.members = (key, whole.reverse) :: reader.members)
    (fresh : next.phase.raw? = none)

variable {reader next : Reader} {octet : UInt8}

theorem separate_keeps (stepped : reader.separate octet = .ok next) :
    next.members = reader.members ∧ next.phase.raw? = none := by
  unfold separate at stepped
  split at stepped
  · cases stepped
    exact ⟨rfl, rfl⟩
  split at stepped
  · cases stepped
    exact ⟨rfl, rfl⟩
  split at stepped
  · cases stepped
    exact ⟨rfl, rfl⟩
  · cases stepped

theorem scanValue_keeps {key raw : Octets} {scanner : Scanner}
    (before : reader.phase.raw? = some raw)
    (stepped : reader.scanValue key scanner raw octet = .ok next) :
    reader.Keeps next octet := by
  unfold scanValue at stepped
  split at stepped
  · cases stepped
    exact .more before rfl rfl
  · cases stepped
    exact .ends before (.inr rfl) rfl rfl
  · obtain ⟨members, fresh⟩ := separate_keeps stepped
    exact .ends before (.inl rfl) members fresh
  · cases stepped

theorem step_keeps (stepped : reader.step octet = .ok next) : reader.Keeps next octet := by
  obtain ⟨phase, members⟩ := reader
  cases phase with
  | beforeValue key =>
      simp only [step] at stepped
      split at stepped
      · cases stepped
        exact .idle rfl (.inr rfl)
      · exact scanValue_keeps rfl stepped
  | value key scanner raw => exact scanValue_keeps rfl stepped
  | separator =>
      obtain ⟨same, fresh⟩ := separate_keeps stepped
      exact .idle same (.inl fresh)
  | colon key =>
      simp only [step] at stepped
      split at stepped
      · cases stepped
        exact .idle rfl (.inl rfl)
      split at stepped
      · cases stepped
        exact .idle rfl (.inr rfl)
      · cases stepped
  | document | topLiteral _ _ | topNumber _ _ | topString _ | firstKey | nextKey | key _
  | finished =>
      -- Here no value begins: whatever phase comes next, it keeps no octets.
      simp only [step, openDocument, scanTopNumber] at stepped
      repeat' split at stepped
      all_goals
        cases stepped
        try exact .idle rfl (.inl rfl)

/-- All values that a reader keeps are pieces of what it has read, the unfinished one
the last piece. -/
structure Slices (reader : Reader) (seen : Octets) : Prop where
  members : ∀ member ∈ reader.members, member.2 <:+: seen
  unfinished : ∀ raw, reader.phase.raw? = some raw → raw.reverse <:+ seen

theorem slices_start : start.Slices [] where
  members := nofun
  unfinished := nofun

theorem Slices.step {seen : Octets} (slices : reader.Slices seen)
    (stepped : reader.step octet = .ok next) : next.Slices (seen ++ [octet]) := by
  have older : ∀ member ∈ reader.members, member.2 <:+: seen ++ [octet] := by
    intro member listed
    apply (slices.members member listed).trans
    exact (List.prefix_append seen [octet]).isInfix
  have longer {raw : Octets} (before : reader.phase.raw? = some raw) :
      (octet :: raw).reverse <:+ seen ++ [octet] := by
    obtain ⟨front, rfl⟩ := slices.unfinished raw before
    exact ⟨front, by simp⟩
  cases step_keeps stepped with
  | idle members fresh =>
      refine ⟨by rwa [members], ?_⟩
      intro raw unfinished
      rcases fresh with fresh | fresh
      · rw [fresh] at unfinished
        cases unfinished
      · rw [fresh] at unfinished
        cases unfinished
        exact List.nil_suffix
  | more before members same =>
      refine ⟨by rwa [members], ?_⟩
      intro raw unfinished
      rw [same] at unfinished
      cases unfinished
      exact longer before
  | @ends key raw whole before last members fresh =>
      refine ⟨?_, ?_⟩
      · rw [members, List.forall_mem_cons]
        refine ⟨?_, older⟩
        rcases last with rfl | rfl
        · exact (slices.unfinished _ before).isInfix.trans
            (List.prefix_append seen [octet]).isInfix
        · exact (longer before).isInfix
      · intro raw unfinished
        rw [fresh] at unfinished
        cases unfinished

theorem members_of_finish {frame : Frame} (finished : reader.finish = .ok frame) :
    frame.members = reader.members.reverse := by
  cases phase : reader.phase with
  | finished =>
      simp only [finish, phase] at finished
      cases finished
      rfl
  | topNumber number spelling =>
      simp only [finish, phase] at finished
      split at finished <;> cases finished
  | document | topLiteral _ _ | topString _ | firstKey | nextKey | key _ | colon _
  | beforeValue _ | value _ _ _ | separator =>
      simp only [finish, phase] at finished
      cases finished

/-- When the text ends, the values in the frame are pieces of all that was read. -/
theorem Slices.run {seen text : Octets} {index : Nat} {frame : Frame}
    (slices : reader.Slices seen) (done : reader.run index text = .ok frame) :
    ∀ member ∈ frame.members, member.2 <:+: seen ++ text := by
  induction text generalizing reader seen index with
  | nil =>
      rw [Reader.run] at done
      split at done
      · next whole finished =>
        cases done
        rw [List.append_nil, members_of_finish finished]
        intro member listed
        exact slices.members member (List.mem_reverse.mp listed)
      · cases done
  | cons octet rest ih =>
      rw [Reader.run] at done
      split at done
      · next next stepped =>
        rw [List.append_cons]
        exact ih (slices.step stepped) done
      · cases done

end Reader

/-- The values in a frame are pieces of the text. -/
theorem Frame.isInfix_of_read {text : Octets} {frame : Frame}
    (read : Frame.read text = .ok frame) : ∀ member ∈ frame.members, member.2 <:+: text :=
  Reader.slices_start.run read

theorem Frame.mem_of_get? {frame : Frame} {key raw : Octets}
    (found : frame.get? key = some raw) : (key, raw) ∈ frame.members := by
  obtain ⟨front, back, split, -⟩ := List.lookup_eq_some_iff.mp found
  rw [← List.mem_reverse, split]
  simp

end Json

/-- The data of a notice is the value of the last member of that name. -/
theorem Request.get?_of_notify {frame : Json.Frame} {data : Payload}
    (meaning : Request.ofFrame frame = .notify data) :
    frame.get? (.ofText "data") = some data := by
  unfold ofFrame at meaning
  split at meaning
  · cases meaning
  split at meaning
  · cases meaning
  split at meaning
  · dsimp only at meaning
    split at meaning <;> cases meaning
  split at meaning
  · split at meaning
    · next found =>
      cases meaning
      exact found
    · cases meaning
  · cases meaning

namespace Request

variable {text : Octets} {data : Payload}

theorem exists_read_of_notify (heard : parse text = .ok (.notify data)) :
    ∃ frame, Json.Frame.read text = .ok frame ∧
      frame.get? (.ofText "data") = some data := by
  unfold parse at heard
  cases read : Json.Frame.read text with
  | error fault =>
      rw [read] at heard
      cases heard
  | ok frame =>
      rw [read] at heard
      have meaning : ofFrame frame = .notify data := Except.ok.inj heard
      exact ⟨frame, rfl, get?_of_notify meaning⟩

/-- The data of a notice is a piece of the text that brought it. -/
theorem isInfix_of_notify (heard : parse text = .ok (.notify data)) : data <:+: text := by
  obtain ⟨frame, read, found⟩ := exists_read_of_notify heard
  exact Json.Frame.isInfix_of_read read _ (Json.Frame.mem_of_get? found)

end Request

end Rendezvous
