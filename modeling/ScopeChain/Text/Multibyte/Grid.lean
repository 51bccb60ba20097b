/-
Grids: characters by row and column.

A grid is given by stretches, each of which has its characters from one cell of a row on.
U+FFFD stands where a cell has no character.
-/
namespace ScopeChain
namespace Multibyte

/-- A stretch of cells: its row, its first column and its characters. -/
abbrev Stretch := Nat × Nat × String

/-- A grid with a number of columns, as its cells row by row. -/
structure Grid where
  columns : Nat
  cells : Array Char

namespace Grid

/-- Writes characters from a cell on. -/
def write (cells : Array Char) (place : Nat) : List Char → Array Char
  | [] => cells
  | c :: rest => write (cells.setIfInBounds place c) (place + 1) rest

/-- The grid of some stretches.  Of two that meet in a cell the last counts. -/
def ofStretches (rows columns : Nat) (stretches : List Stretch) : Grid :=
  { columns
    cells := stretches.foldl
      (fun cells (row, column, chars) => write cells (row * columns + column) chars.toList)
      (Array.replicate (rows * columns) '\uFFFD') }

def get? (g : Grid) (row column : Nat) : Option Char :=
  if column < g.columns then (g.cells[row * g.columns + column]?).filter (· ≠ '\uFFFD') else none

theorem get?_of_le {g : Grid} {column : Nat} (h : g.columns ≤ column) (row : Nat) :
    g.get? row column = none := by
  simp [get?, Nat.not_lt.mpr h]

end Grid
end Multibyte
end ScopeChain
