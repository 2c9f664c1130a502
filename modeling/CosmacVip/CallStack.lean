import CosmacVip.Address

/-!
The call stack: sixteen slots, of which the first `depth` hold return addresses.

* `CallStack.push?`, `CallStack.pop?`: refuse at sixteen frames and at none;
* `CallStack.frames`: the return addresses as a list, the oldest first;
* `frames_of_push?`, `frames_of_pop?`: pushing adds a frame at the end, popping takes that one away.

A popped slot keeps its value until a later push overwrites it; only `frames` is the stack's meaning.
-/

namespace CosmacVip

/-- Return addresses in the order of their calls. -/
structure CallStack where
  slots : Vector Address 16
  depth : Fin 17
deriving DecidableEq

namespace CallStack

/-- No frames, and zeros in all slots. -/
def empty : CallStack := ⟨Vector.replicate 16 (Address.ofNat 0), ⟨0, by decide⟩⟩

/-- The stack with one frame more, if there is a free slot. -/
def push? (s : CallStack) (a : Address) : Option CallStack :=
  if h : s.depth.val < 16 then
    some ⟨s.slots.set s.depth a, ⟨s.depth.val + 1, by omega⟩⟩
  else none

/-- The newest return address and the stack without it, if there is a frame. -/
def pop? (s : CallStack) : Option (Address × CallStack) :=
  if h : 0 < s.depth.val then
    some (s.slots[s.depth.val - 1], ⟨s.slots, ⟨s.depth.val - 1, by omega⟩⟩)
  else none

/-- The return addresses of the open calls, the oldest first. -/
def frames (s : CallStack) : List Address := s.slots.toList.take s.depth

/-- There are as many frames as the stack is deep. -/
@[simp] theorem length_frames (s : CallStack) : s.frames.length = s.depth.val := by
  have := s.depth.isLt
  simp only [frames, List.length_take, Vector.length_toList]
  omega

/-- The empty stack has no frame. -/
@[simp] theorem frames_empty : empty.frames = [] := rfl

/-- Only a full stack takes no frame. -/
theorem push?_eq_none_iff {s : CallStack} {a : Address} : s.push? a = none ↔ s.frames.length = 16 := by
  have := s.depth.isLt
  simp only [push?, length_frames]
  split <;> simp <;> omega

/-- A new frame comes last. -/
theorem frames_of_push? {s t : CallStack} {a : Address} (h : s.push? a = some t) :
    t.frames = s.frames ++ [a] := by
  simp only [push?] at h
  split at h
  case isFalse => simp at h
  case isTrue hd =>
    obtain rfl := Option.some.inj h
    have hlen : s.depth.val < (s.slots.toList.set s.depth a).length := by simpa using hd
    simp only [frames, Vector.toList_set]
    rw [List.take_succ_eq_append_getElem hlen, List.getElem_set_self, List.take_set_of_le (Nat.le_refl _)]

/-- Only an empty stack gives no frame back. -/
theorem pop?_eq_none_iff {s : CallStack} : s.pop? = none ↔ s.frames = [] := by
  rw [← List.length_eq_zero_iff, length_frames]
  simp only [pop?]
  split <;> simp <;> omega

/-- The frame that is given back was the last. -/
theorem frames_of_pop? {s t : CallStack} {a : Address} (h : s.pop? = some (a, t)) :
    s.frames = t.frames ++ [a] := by
  simp only [pop?] at h
  split at h
  case isFalse => simp at h
  case isTrue hd =>
    simp only [Option.some.injEq, Prod.mk.injEq] at h
    obtain ⟨rfl, rfl⟩ := h
    have hlen : s.depth.val - 1 < s.slots.toList.length := by
      have := s.depth.isLt
      simp only [Vector.length_toList]
      omega
    have hd' : s.depth.val = s.depth.val - 1 + 1 := by omega
    have := List.take_succ_eq_append_getElem hlen
    simpa only [frames, ← hd', Vector.getElem_toList] using this

end CallStack

end CosmacVip
