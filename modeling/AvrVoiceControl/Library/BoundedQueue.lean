import AvrVoiceControl.Library.Machine

set_option autoImplicit false

namespace BoundedQueue

variable {α : Type}

def push (capacity : Nat) (queue data : List α) : List α := (queue ++ data).take capacity

@[simp] theorem push_nil {capacity : Nat} {queue : List α} (bound : queue.length ≤ capacity) :
    push capacity queue [] = queue := by
  simp [push, List.take_of_length_le bound]

theorem push_push (capacity : Nat) (queue front back : List α) :
    push capacity (push capacity queue front) back = push capacity queue (front ++ back) := by
  rw [push, push, push, ← List.append_assoc]
  by_cases fits : (queue ++ front).length ≤ capacity
  · rw [List.take_of_length_le fits, List.take_append, List.take_of_length_le fits]
  · have full : ((queue ++ front).take capacity).length = capacity := by
      rw [List.length_take]
      omega
    have beyond : capacity ≤ (queue ++ front).length := by omega
    rw [List.take_append_of_le_length (Nat.le_of_eq full.symm), List.take_take, Nat.min_self,
      List.take_append_of_le_length beyond]

theorem push_of_full {capacity : Nat} {queue : List α} (full : queue.length = capacity)
    (data : List α) : push capacity queue data = queue := by
  rw [push, List.take_append_of_le_length (by omega), List.take_of_length_le (by omega)]

theorem push_eq {capacity : Nat} {queue : List α} (bound : queue.length ≤ capacity)
    (data : List α) :
    push capacity queue data = queue ++ data.take (capacity - queue.length) := by
  rw [push, List.take_append, List.take_of_length_le bound]

inductive Operation (α : Type)
  | clear
  | push (data : List α)
  | pop (count : Nat)

def step (capacity : Nat) : Machine.Step (List α) (Operation α) (List α)
  | _, .clear => ([], [[]])
  | queue, .push data => (queue ++ data.take (capacity - queue.length), [[]])
  | queue, .pop count => (queue.drop count, [queue.take count])

end BoundedQueue
