import CommitCharts.Database.Image.Row

/-!
# CommitCharts.Database.Image.Tree — the rows of a table

A table is a tree of pages.  Its leaves hold rows, and the pages above them hold the numbers of further pages, in
row order.  In the tree of a table without row numbers the pages above hold rows as well, each between those of
two pages below.  A payload too large for its page goes on on pages that name one another.
-/

namespace CommitCharts.Database.Image

/-- Two kinds of trees: of numbered rows, and of rows that are ordered by their own values. -/
inductive TreeKind where
  | numbered
  | keyed
  deriving DecidableEq, Repr

/-- How much of a payload lies on the page itself. -/
def localSize (img : Image) (kind : TreeKind) (size : Nat) : Nat :=
  let most := match kind with
    | .numbered => img.usable - 35
    | .keyed => (img.usable - 12) * 64 / 255 - 23
  let least := (img.usable - 12) * 32 / 255 - 23
  let fitting := least + (size - least) % (img.usable - 4)
  if size ≤ most then size
  else if fitting ≤ most then fitting
  else least

/-- The rest of a payload behind `done` bytes, from a page on, `pages` pages at most. -/
def overflow (img : Image) : Nat → Nat → Nat → Nat → Except Fault Payload
  | 0, _, _, missing => if missing = 0 then .ok { bytes := .empty } else .error .malformed
  | pages + 1, page, done, missing =>
    if missing = 0 then .ok { bytes := .empty }
    else do
      img.expectPage page
      let start := img.pageStart page + 4
      let next ← img.number (img.pageStart page) 4
      let here := min missing (img.usable - 4)
      let first ← img.slice page img.usable start here
      let rest ← overflow img pages next (done + here) (missing - here)
      let gap := if img.fileSize < start + here then some ⟨done, done + (img.fileSize - start)⟩ else rest.gap
      return ⟨first ++ rest.bytes, gap⟩

/-- A payload of a size.  One that does not go on elsewhere may reach into the reserved part of its page. -/
def payload (img : Image) (kind : TreeKind) (page place size : Nat) : Except Fault Payload := do
  let here := img.localSize kind size
  if here = size then return { bytes := ← img.slice page img.pageSize place size }
  else
    let first ← img.slice page img.usable place here
    let next ← img.number (place + here) 4
    let rest ← img.overflow img.pages next here (size - here)
    return ⟨first ++ rest.bytes, rest.gap⟩

/-- A row of a tree.  Only numbered rows have a number. -/
structure StoredRow where
  number : Int64
  payload : Payload

/-- The row in a cell, from a place in it on. -/
def cellRow (img : Image) (kind : TreeKind) (page place : Nat) : Except Fault StoredRow := do
  let (size, place) ← img.varint place
  let (number, place) ← match kind with
    | .numbered => img.varint place
    | .keyed => .ok (0, place)
  expect (0 < size || img.bytes[place]? == some 0) .malformed
  return ⟨Int64.ofNat number, ← img.payload kind page place size⟩

/-- Where the cells of a page start, in row order.  The list of them lies behind the page's account. -/
def cells (img : Image) (page accountSize : Nat) : Except Fault (List Nat) := do
  let count ← img.number (img.pageAccount page + 3) 2
  expect (count ≤ (img.pageSize - 8) / 6) .malformed
  (List.range count).mapM fun i => do
    let place ← img.number (img.pageAccount page + accountSize + 2 * i) 2
    return img.pageStart page + place % img.pageSize

/-- The first byte of a page's account tells its kind and whether it is a leaf. -/
def pageKind (img : Image) (page : Nat) : Except Fault (TreeKind × Bool) := do
  img.expectPage page
  match ← img.number (img.pageAccount page) 1 with
  | 13 => return (.numbered, true)
  | 5 => return (.numbered, false)
  | 10 => return (.keyed, true)
  | 2 => return (.keyed, false)
  | _ => throw .malformed

/-- No tree is deeper than this. -/
def maxDepth : Nat := 20

/-- The rows below a page of a tree that is at most `depth` pages high.  Only the topmost page may be empty. -/
def rowsBelow (img : Image) (kind : TreeKind) : Nat → Bool → Nat → Except Fault (List StoredRow)
  | 0, _, _ => .error .malformed
  | depth + 1, isTop, page => do
    let (found, isLeaf) ← img.pageKind page
    expect (found == kind) .malformed
    let cells ← img.cells page (if isLeaf then 8 else 12)
    expect (isTop || !cells.isEmpty) .malformed
    if isLeaf then cells.mapM (img.cellRow kind page ·)
    else
      let below ← cells.mapM fun cell => do
        let rows ← rowsBelow img kind depth false (← img.number cell 4)
        match kind with
        | .numbered => return rows
        | .keyed => return rows ++ [← img.cellRow kind page (cell + 4)]
      let last ← rowsBelow img kind depth false (← img.number (img.pageAccount page + 8) 4)
      return below.flatten ++ last

/-- The rows of the tree that starts at a page. -/
def rows (img : Image) (kind : TreeKind) (root : Nat) : Except Fault (List StoredRow) :=
  img.rowsBelow kind maxDepth true root

end CommitCharts.Database.Image
