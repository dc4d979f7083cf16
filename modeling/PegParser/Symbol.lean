namespace PegParser

inductive Symbol
  | terminal
  | rule (index : Nat)
deriving DecidableEq, Repr

structure SymbolTable where
  entries : List (String × Symbol) := []

namespace SymbolTable

def get? (table : SymbolTable) (name : String) : Option Symbol :=
  table.entries.lookup name

def insert (table : SymbolTable) (name : String) (symbol : Symbol) : SymbolTable where
  entries := (name, symbol) :: table.entries

@[simp]
theorem get?_insert (table : SymbolTable) (name name' : String) (symbol : Symbol) :
    (table.insert name symbol).get? name' =
      if name' = name then some symbol else table.get? name' := by
  simp only [get?, insert, List.lookup_cons]
  split <;> simp_all

end SymbolTable
end PegParser
