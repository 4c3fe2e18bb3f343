import WeekMenu.Storage.Basic

/-!
This module contains a storage that lasts as long as the program runs. Every key is good, and no
operation fails.
-/

namespace WeekMenu

structure Memory where
  entries : List (String × String)
  deriving DecidableEq, Repr, Inhabited

namespace Memory

def empty : Memory := ⟨[]⟩

def get? (m : Memory) (key : String) : Option String :=
  m.entries.lookup key

def put (m : Memory) (key value : String) : Memory :=
  ⟨(key, value) :: m.entries.filter (·.1 != key)⟩

instance : Storage Memory where
  get key m := (.ok (m.get? key), m)
  set key value m := (.ok (), m.put key value)
  location _ _ := none

@[simp] theorem get?_put_self (m : Memory) (key value : String) :
    (m.put key value).get? key = some value := by
  simp [put, get?]

end Memory
end WeekMenu
