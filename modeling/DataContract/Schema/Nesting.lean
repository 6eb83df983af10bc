/-
How deep a value lies in itself.

A check goes into a value as far as the schema looks into it.  The values that it
is inside of at a time lie in each other, so their greatest number says how deep
the check goes.
-/
import DataContract.Schema.Check

namespace DataContract

namespace Value

mutual

/-- How many values lie in each other, this one included. -/
def depth : Value → Nat
  | .list items => depthOfItems items + 1
  | .map entries => depthOfEntries entries + 1
  | .set items => depthOfItems items + 1
  | .pair a b => max (depth a) (depth b) + 1
  | _ => 1

/-- How many values lie in each other in one of the items at most. -/
def depthOfItems : List Value → Nat
  | [] => 0
  | v :: rest => max (depth v) (depthOfItems rest)

/-- How many values lie in each other in one of the entries at most. -/
def depthOfEntries : List (Value × Value) → Nat
  | [] => 0
  | e :: rest => max (depthOfEntry e) (depthOfEntries rest)

/-- How many values lie in each other in an entry at most. -/
def depthOfEntry : Value × Value → Nat
  | (key, v) => max (depth key) (depth v)

end

end Value

namespace Schema

mutual

/-- How many values lie in each other where a schema looks into a value, this one included. -/
def nesting (s : Schema) : Value → Nat
  | .list items =>
    match s.resolve with
    | .list item => itemNesting item items + 1
    | _ => 1
  | .map entries =>
    match s.resolve with
    | .record _ named => entryNesting named entries + 1
    | _ => 1
  | _ => 1

/-- How many values lie in each other in one of the items at most. -/
def itemNesting (item : Schema) : List Value → Nat
  | [] => 0
  | v :: rest =>
    max
      (match item with
        | .variant options =>
          match select options v [] with
          | .ok s => nesting s v
          | .error _ => 1
        | s => nesting s v)
      (itemNesting item rest)

/-- How many values lie in each other in one of the entries at most. -/
def entryNesting (named : List (String × Schema)) : List (Value × Value) → Nat
  | [] => 0
  | e :: rest => max (oneEntryNesting named e) (entryNesting named rest)

/-- How many values lie in each other in an entry; one whose name has no schema is not looked at. -/
def oneEntryNesting (named : List (String × Schema)) : Value × Value → Nat
  | (key, v) =>
    match named.find? (fun n => key.isStr n.1) with
    | some (_, s) => nesting s v
    | none => 0

end

end Schema

end DataContract
