import SelfUpdate.Proofs.FileSystem.Lookup

/-!
# Trees that hold the same entries

Operations on trees are compared here as they stand, entry by entry, and not only by what
is found afterwards.  So two trees that are shown equal agree in the order and in the
spelling of their entries, too.

What is entered and then removed leaves no trace, even if another entry was made in
between.  That last fact is about where a new entry is put among the others, and it rests
on the order of paths being one.
-/

namespace SelfUpdate

section Order

def Component.nameLetters : Component → List Char
  | .name letters => letters
  | _ => []

theorem Component.order_eq_compareLex :
    Component.order = compareLex (compareOn rank) (compareOn nameLetters) := by
  funext left right
  cases left <;> cases right <;> rfl

instance : Std.TransCmp Component.order := by
  rw [Component.order_eq_compareLex]
  infer_instance

theorem Path.orderComponents_eq_compareLex :
    Path.orderComponents = List.compareLex Component.order := by
  funext lefts rights
  induction lefts generalizing rights with
  | nil => cases rights <;> rfl
  | cons left lefts ih =>
      cases rights with
      | nil => rfl
      | cons right rights => rw [orderComponents, List.compareLex_cons_cons, ih]

theorem Path.order_lt_trans {first second third : Path} (early : first.order second = .lt)
    (late : second.order third = .lt) : first.order third = .lt := by
  unfold Path.order at *
  rw [orderComponents_eq_compareLex] at *
  exact Std.TransCmp.lt_trans early late

theorem Path.components_ne_of_order_lt {first second : Path}
    (before : first.order second = .lt) : first.components ≠ second.components := by
  intro same
  have self : List.compareLex Component.order second.components second.components = .eq :=
    Std.ReflCmp.compare_self
  rw [Path.order, orderComponents_eq_compareLex, same, self] at before
  simp at before

theorem Path.not_order_lt_of_order_lt {first second : Path} (before : first.order second = .lt) :
    ¬second.order first = .lt := fun after =>
  components_ne_of_order_lt (order_lt_trans before after) rfl

instance : Std.LawfulEqCmp Component.order where
  eq_of_compare {left right} same := by
    cases left <;> cases right <;> simp [Component.order, Component.rank] at same ⊢
    exact same

theorem Path.order_lt_or_lt {first second : Path} (apart : first.components ≠ second.components) :
    first.order second = .lt ∨ second.order first = .lt := by
  unfold Path.order
  rw [orderComponents_eq_compareLex]
  cases compared : List.compareLex Component.order first.components second.components with
  | lt => exact Or.inl rfl
  | eq => exact absurd (Std.LawfulEqCmp.eq_of_compare compared) apart
  | gt => exact Or.inr (Std.OrientedCmp.lt_of_gt compared)

end Order

namespace Tree

variable {path other : Path} {node kept : Node} {entries : List Entry}

/-- A new node for an entry that was just made. -/
theorem insertEntry_insertEntry (path : Path) (old new : Node) (entries : List Entry) :
    insertEntry path new (insertEntry path old entries) = insertEntry path new entries := by
  induction entries with
  | nil => simp [insertEntry]
  | cons entry entries ih =>
      by_cases same : entry.path.components = path.components
      · simp [insertEntry, same]
      · by_cases before : path.order entry.path = .lt
        · simp [insertEntry, same, before]
        · simp [insertEntry, same, before, ih]

section Apart

variable {first second : Path}

private theorem insertEntry_comm_of_lt (before : first.order second = .lt) (old new : Node)
    (entries : List Entry) :
    insertEntry first old (insertEntry second new entries) =
      insertEntry second new (insertEntry first old entries) := by
  have apart := Path.components_ne_of_order_lt before
  have notAfter := Path.not_order_lt_of_order_lt before
  induction entries with
  | nil => simp [insertEntry, before, notAfter, apart, Ne.symm apart]
  | cons entry entries ih =>
      by_cases isFirst : entry.path.components = first.components
      · have notInFront : ¬second.order entry.path = .lt := by
          rwa [Path.order, isFirst]
        simp [insertEntry, isFirst, apart, notInFront]
      by_cases isSecond : entry.path.components = second.components
      · have inFront : first.order entry.path = .lt := by
          rwa [Path.order, isSecond]
        simp [insertEntry, isSecond, apart, Ne.symm apart, inFront, notAfter]
      by_cases secondInFront : second.order entry.path = .lt
      · have firstInFront := Path.order_lt_trans before secondInFront
        simp [insertEntry, isFirst, isSecond, secondInFront, firstInFront, before, notAfter,
          apart, Ne.symm apart]
      by_cases firstInFront : first.order entry.path = .lt
      · simp [insertEntry, isFirst, isSecond, secondInFront, firstInFront, notAfter, apart]
      · simp [insertEntry, isFirst, isSecond, secondInFront, firstInFront, ih]

/-- It does not matter in which order two entries are made. -/
theorem insert_comm (tree : Tree) (apart : first.components ≠ second.components)
    (old new : Node) :
    (tree.insert second new).insert first old = (tree.insert first old).insert second new := by
  rcases Path.order_lt_or_lt apart with before | after
  · exact congrArg Tree.mk (insertEntry_comm_of_lt before old new tree.entries)
  · exact congrArg Tree.mk (insertEntry_comm_of_lt after new old tree.entries).symm

end Apart

section Filtered

variable (test : List Component → Bool)

/-- An entry that a test drops leaves no trace behind the test. -/
theorem filter_insertEntry (dropped : test path.components = false) :
    (insertEntry path node entries).filter (fun entry => test entry.path.components) =
      entries.filter fun entry => test entry.path.components := by
  induction entries with
  | nil => simp [insertEntry, dropped]
  | cons entry entries ih =>
      by_cases same : entry.path.components = path.components
      · simp [insertEntry, same, dropped]
      · by_cases before : path.order entry.path = .lt
        · simp [insertEntry, same, before, dropped]
        · simp [insertEntry, same, before, List.filter_cons, ih]

/-- It leaves none either if another entry is made after it. -/
theorem filter_insertEntry_insertEntry (dropped : test path.components = false)
    (apart : other.components ≠ path.components) :
    (insertEntry other kept (insertEntry path node entries)).filter
        (fun entry => test entry.path.components) =
      (insertEntry other kept entries).filter fun entry => test entry.path.components := by
  induction entries with
  | nil =>
      by_cases before : other.order path = .lt <;>
        simp [insertEntry, Ne.symm apart, before, dropped, List.filter_cons]
  | cons entry entries ih =>
      by_cases same : entry.path.components = path.components
      · by_cases before : other.order entry.path = .lt <;>
          simp [insertEntry, same, Ne.symm apart, before, dropped, List.filter_cons]
      by_cases before : path.order entry.path = .lt
      · -- The other entry is made before the first one, or after it, but never between it and
        -- the next.
        by_cases first : other.order path = .lt
        · have stillFirst := Path.order_lt_trans first before
          have notEntry := Path.components_ne_of_order_lt stillFirst
          simp [insertEntry, same, before, Ne.symm apart, first, stillFirst, Ne.symm notEntry,
            dropped, List.filter_cons]
        · rw [insertEntry]
          simp [same, before, insertEntry, Ne.symm apart, first, dropped]
      · have skipped : (insertEntry path node entries).filter
            (fun entry => test entry.path.components) =
              entries.filter fun entry => test entry.path.components :=
          filter_insertEntry test dropped
        by_cases sameOther : entry.path.components = other.components
        · simp [insertEntry, before, sameOther, apart, List.filter_cons, skipped]
        by_cases first : other.order entry.path = .lt
        · simp [insertEntry, same, before, sameOther, first, List.filter_cons, skipped]
        · simp [insertEntry, same, before, sameOther, first, List.filter_cons, ih]

end Filtered

variable (tree : Tree) {base : Path}

theorem insert_insert (path : Path) (old new : Node) :
    (tree.insert path old).insert path new = tree.insert path new :=
  congrArg Tree.mk (insertEntry_insertEntry path old new tree.entries)

theorem find?_ne_none_of_mem {entry : Entry} (member : entry ∈ tree.entries) :
    tree.find? entry.path ≠ none := by
  simp only [find?, ne_eq, Option.map_eq_none_iff, List.find?_eq_none]
  intro missing
  simpa using missing entry member

theorem erase_insert (path : Path) (node : Node) :
    (tree.insert path node).erase path = tree.erase path :=
  congrArg Tree.mk
    (filter_insertEntry (fun place => !(place == path.components)) (by simp))

theorem erase_of_absent (absent : tree.find? path = none) : tree.erase path = tree := by
  have kept : ∀ entry ∈ tree.entries, (!entry.path.sameAs path) = true := by
    intro entry member
    by_contra same
    have sameComponents : entry.path.components = path.components := by simpa using same
    exact tree.find?_ne_none_of_mem member ((tree.find?_congr sameComponents).trans absent)
  exact congrArg Tree.mk (List.filter_eq_self.mpr kept)

theorem eraseBelow_of_absent
    (absent : ∀ path, path.liesIn base = true → tree.find? path = none) :
    tree.eraseBelow base = tree := by
  have kept : ∀ entry ∈ tree.entries, (!entry.path.liesIn base) = true := by
    intro entry member
    cases within : entry.path.liesIn base
    · rfl
    · exact absurd (absent _ within) (tree.find?_ne_none_of_mem member)
  exact congrArg Tree.mk (List.filter_eq_self.mpr kept)

/-- What is entered below a place that is removed afterwards might as well not have been. -/
theorem eraseBelow_insert_insert (node kept : Node) (within : path.liesIn base = true)
    (outside : other.liesIn base = false) :
    ((tree.insert path node).insert other kept).eraseBelow base =
      (tree.insert other kept).eraseBelow base := by
  have apart : other.components ≠ path.components := by
    intro same
    rw [Path.liesIn, same, ← Path.liesIn, within] at outside
    simp at outside
  exact congrArg Tree.mk (filter_insertEntry_insertEntry
    (fun place => !base.components.isPrefixOf place) (by simpa using within) apart)

end Tree

end SelfUpdate
