import RadixCalc.Proofs.Expression

/-!
Which sequences come from trees. The last token of a postorder is the root of
its tree and tells how many subtrees stand before it, so a sequence is the
postorder of one tree at most. In the trees that can be evaluated, only names
and further assignments stand to the left of an assignment.
-/

namespace RadixCalc

namespace Expression

/-- What an assignment can have on its left. -/
def IsTarget : Expression → Prop
  | operand (.symbol _) => True
  | assign _ _ => True
  | _ => False

mutual

/-- Every assignment has a target on its left, also in the arguments of calls. -/
def AssignsTargets : Expression → Prop
  | operand _ => True
  | call _ arguments => AssignsTargetsEach arguments
  | arithmetic _ left right => left.AssignsTargets ∧ right.AssignsTargets
  | assign target source =>
      target.IsTarget ∧ target.AssignsTargets ∧ source.AssignsTargets

def AssignsTargetsEach : List (Option Expression) → Prop
  | [] => True
  | none :: rest => AssignsTargetsEach rest
  | some argument :: rest => argument.AssignsTargets ∧ AssignsTargetsEach rest

end

/-- The last token of the postorder. -/
def root : Expression → Token
  | operand value => .operand value
  | call name arguments => .call name (postorderEach arguments)
  | arithmetic operation _ _ => .operator (.arithmetic operation)
  | assign _ _ => .operator .assign

/-- The tokens before the last one. -/
def branches : Expression → Sequence
  | operand _ => []
  | call _ _ => []
  | arithmetic _ left right => left.postorder ++ right.postorder
  | assign target source => target.postorder ++ source.postorder

theorem postorder_eq_root_last (tree : Expression) :
    tree.postorder = tree.branches ++ [tree.root] := by
  cases tree <;> simp [postorder, branches, root]

mutual

/-- Two trees whose postorders end at the same place are the same and begin at the same place. -/
theorem postorder_cancel (tree other : Expression) {before ahead : Sequence}
    (same : before ++ tree.postorder = ahead ++ other.postorder) :
    before = ahead ∧ tree = other := by
  rw [postorder_eq_root_last tree, postorder_eq_root_last other, ← List.append_assoc,
    ← List.append_assoc] at same
  obtain ⟨branches, roots⟩ := List.append_inj' same rfl
  have rooted : tree.root = other.root := by simpa using roots
  cases tree with
  | operand value =>
      cases other <;> simp [root] at rooted
      subst rooted
      exact ⟨by simpa [Expression.branches] using branches, rfl⟩
  | call name arguments =>
      cases other <;> simp [root] at rooted
      rename_i called others
      obtain ⟨rfl, sequences⟩ := rooted
      rw [postorder_each_injective arguments others sequences]
      exact ⟨by simpa [Expression.branches] using branches, rfl⟩
  | arithmetic operation left right =>
      cases other <;> simp [root] at rooted
      rename_i otherOperation otherLeft otherRight
      subst rooted
      -- The right subtree ends where the root stands, and the left one where the right one begins.
      rw [Expression.branches, Expression.branches, ← List.append_assoc,
        ← List.append_assoc] at branches
      obtain ⟨shorter, rfl⟩ := postorder_cancel right otherRight branches
      obtain ⟨shortest, rfl⟩ := postorder_cancel left otherLeft shorter
      exact ⟨shortest, rfl⟩
  | assign target source =>
      cases other <;> simp [root] at rooted
      rename_i otherTarget otherSource
      rw [Expression.branches, Expression.branches, ← List.append_assoc,
        ← List.append_assoc] at branches
      obtain ⟨shorter, rfl⟩ := postorder_cancel source otherSource branches
      obtain ⟨shortest, rfl⟩ := postorder_cancel target otherTarget shorter
      exact ⟨shortest, rfl⟩

theorem postorder_each_injective (arguments others : List (Option Expression))
    (same : postorderEach arguments = postorderEach others) : arguments = others := by
  cases arguments with
  | nil =>
      match others with
      | [] => rfl
      | none :: _ => cases same
      | some _ :: _ => cases same
  | cons argument rest =>
      match argument, others with
      | none, [] => cases same
      | some _, [] => cases same
      | none, none :: others =>
          have tails := (List.cons.inj same).2
          rw [postorder_each_injective rest others tails]
      | none, some other :: others =>
          exact absurd (List.cons.inj same).1.symm other.postorder_nonempty
      | some tree, none :: others => exact absurd (List.cons.inj same).1 tree.postorder_nonempty
      | some tree, some other :: others =>
          obtain ⟨heads, tails⟩ := List.cons.inj same
          rw [postorder_each_injective rest others tails,
            (postorder_cancel tree other (congrArg ([] ++ ·) heads)).2]

end

theorem postorder_injective {tree other : Expression} (same : tree.postorder = other.postorder) :
    tree = other :=
  (postorder_cancel tree other (congrArg ([] ++ ·) same)).2

/-- A call in a postorder has the postorders of trees for its arguments. -/
theorem call_in_postorder (tree : Expression) {name : String} {arguments : List Sequence}
    (assigns : tree.AssignsTargets) (member : Token.call name arguments ∈ tree.postorder) :
    ∃ trees, arguments = postorderEach trees ∧ AssignsTargetsEach trees := by
  cases tree with
  | operand value => simp [postorder] at member
  | call called trees =>
      simp only [postorder, List.mem_singleton, Token.call.injEq] at member
      exact ⟨trees, member.2, assigns⟩
  | arithmetic operation left right =>
      simp only [postorder, List.mem_append, List.mem_singleton, reduceCtorEq, or_false] at member
      rcases member with inLeft | inRight
      · exact call_in_postorder left assigns.1 inLeft
      · exact call_in_postorder right assigns.2 inRight
  | assign target source =>
      simp only [postorder, List.mem_append, List.mem_singleton, reduceCtorEq, or_false] at member
      rcases member with inTarget | inSource
      · exact call_in_postorder target assigns.2.1 inTarget
      · exact call_in_postorder source assigns.2.2 inSource

theorem mem_postorder_each {trees : List (Option Expression)} {argument : Sequence}
    (assigns : AssignsTargetsEach trees) (member : argument ∈ postorderEach trees) :
    argument = [] ∨ ∃ tree : Expression, tree.AssignsTargets ∧ argument = tree.postorder := by
  induction trees with
  | nil => simp [postorderEach] at member
  | cons head rest induction =>
      cases head with
      | none =>
          rcases List.mem_cons.mp member with blank | further
          · exact Or.inl blank
          · exact induction assigns further
      | some tree =>
          rcases List.mem_cons.mp member with here | further
          · exact Or.inr ⟨tree, assigns.1, here⟩
          · exact induction assigns.2 further

end Expression

end RadixCalc
