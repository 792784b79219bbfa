import ValkeyClusterProxy.Dispatcher.Topology

/-!
# Reads kept in the local data centre

Under `READ_PREFER_SLAVE_IDC` `doReload` keeps the alive replicas whose endpoint starts with
a prefix of the local address: its first two dotted segments and a dot, cut with
`strings.SplitN(localIP, ".", 3)`, resliced to two and put back with `strings.Join`.

`rewriteRead_slaveIdc` reads this back.  For an address `a.b.…` the prefix is `a.b.`, with
the dot, so a replica in `10.40.x.x` is not taken for one in `10.4.x.x`; with no local
address the prefix is empty, and the rule keeps every alive replica, as
`READ_PREFER_SLAVE` does.
-/

namespace ValkeyClusterProxy

open Proto

namespace Go

/-- `SplitN` cuts a word free of the separator off the front. -/
theorem splitN_cut {sep : Char} {word rest : Bytes} (clean : sep ∉ word) (n : Nat) :
    splitN sep (n + 2) (word ++ sep :: rest) = word :: splitN sep (n + 1) rest := by
  have inWord : ∀ c ∈ word, (c != sep) = true := fun c member =>
    bne_iff_ne.mpr fun same => clean (same ▸ member)
  have taken : (word ++ sep :: rest).takeWhile (· != sep) = word := by
    rw [List.takeWhile_append_of_pos inWord]
    simp
  have dropped : (word ++ sep :: rest).dropWhile (· != sep) = sep :: rest := by
    rw [List.dropWhile_append_of_pos inWord]
    simp
  rw [splitN, if_pos (by simp), taken, dropped, List.tail_cons]

/-- `SplitN(s, ".", 3)` of an address with two dots gives its two first segments and the
rest. -/
theorem splitN_three {a b rest : Bytes} (noDotA : '.' ∉ a) (noDotB : '.' ∉ b) :
    splitN '.' 3 (a ++ '.' :: b ++ '.' :: rest) = [a, b, rest] := by
  rw [List.append_assoc, List.cons_append]
  exact (splitN_cut noDotA 1).trans (congrArg (a :: ·) (splitN_cut noDotB 0))

end Go

namespace Dispatcher

/-- The local prefix of an address `a.b.…` is `a.b.`. -/
theorem localIPPrefix_dotted {a b rest : Bytes} (noDotA : '.' ∉ a) (noDotB : '.' ∉ b) :
    localIPPrefix (a ++ '.' :: b ++ '.' :: rest) = a ++ '.' :: b ++ ['.'] := by
  rw [localIPPrefix, if_pos (by simp), Go.splitN_three noDotA noDotB]
  simp [Go.join, List.intercalate]

/-- The `/16` rule of `READ_PREFER_SLAVE_IDC`: with a local address `a.b.…`, whose two first
segments hold no dot, a slot range's reads go to its alive replicas whose endpoint starts
with `a.b.`, in their order, or to its master when there is none.  With no local address
the rule keeps every alive replica, as `READ_PREFER_SLAVE` does. -/
theorem rewriteRead_slaveIdc (aliveNodes : List Endpoint) (si : SlotInfo) {a b rest : Bytes}
    (noDotA : '.' ∉ a) (noDotB : '.' ∉ b) :
    (rewriteRead readPreferSlaveIdc (a ++ '.' :: b ++ '.' :: rest) aliveNodes si).read =
        (let kept := si.read.filter fun node =>
          decide (node ∈ aliveNodes) && (a ++ '.' :: b ++ ['.']).isPrefixOf node
        if kept = [] then [si.write] else kept) ∧
      ∀ localIP, rewriteRead readPreferSlaveIdc [] aliveNodes si =
        rewriteRead readPreferSlave localIP aliveNodes si := by
  have idc : readPreferSlaveIdc ≠ readPreferMaster := by decide
  have notSlave : readPreferSlave ≠ readPreferMaster := by decide
  refine ⟨?_, fun localIP => ?_⟩
  · simp only [rewriteRead, if_neg idc, or_true, if_true, bne_self_eq_false, Bool.false_or,
      localIPPrefix_dotted noDotA noDotB, List.length_eq_zero]
  · have slaveNotIdc : (readPreferSlave != readPreferSlaveIdc) = true := by decide
    simp [rewriteRead, localIPPrefix, idc, notSlave, slaveNotIdc]

theorem rewriteRead_slaveIdc_tenFour :
    '.' ∉ "10".toList ∧ '.' ∉ "4".toList ∧
      (rewriteRead readPreferSlaveIdc ("10".toList ++ '.' :: "4".toList ++ '.' :: "17.164".toList)
          ["10.4.0.2:7001".toList, "10.40.0.3:7001".toList]
          ⟨0, 16383, "10.4.0.1:7000".toList, ["10.40.0.3:7001".toList, "10.4.0.2:7001".toList]⟩).read =
        (let kept := ["10.40.0.3:7001".toList, "10.4.0.2:7001".toList].filter fun node =>
          decide (node ∈ ["10.4.0.2:7001".toList, "10.40.0.3:7001".toList]) &&
            ("10".toList ++ '.' :: "4".toList ++ ['.']).isPrefixOf node
        if kept = [] then ["10.4.0.1:7000".toList] else kept) ∧
      ∀ localIP, rewriteRead readPreferSlaveIdc []
          ["10.4.0.2:7001".toList, "10.40.0.3:7001".toList]
          ⟨0, 16383, "10.4.0.1:7000".toList, ["10.40.0.3:7001".toList, "10.4.0.2:7001".toList]⟩ =
        rewriteRead readPreferSlave localIP ["10.4.0.2:7001".toList, "10.40.0.3:7001".toList]
          ⟨0, 16383, "10.4.0.1:7000".toList, ["10.40.0.3:7001".toList, "10.4.0.2:7001".toList]⟩ :=
  ⟨by decide, by decide, rewriteRead_slaveIdc _ _ (by decide) (by decide)⟩

/-- On the proxy at `10.4.17.164`, the alive replica `10.40.0.3:7001` is dropped and
`10.4.0.2:7001` kept. -/
example :
    (rewriteRead readPreferSlaveIdc "10.4.17.164".toList
        ["10.4.0.2:7001".toList, "10.40.0.3:7001".toList]
        ⟨0, 16383, "10.4.0.1:7000".toList, ["10.40.0.3:7001".toList, "10.4.0.2:7001".toList]⟩).read =
      ["10.4.0.2:7001".toList] := by decide

end Dispatcher

end ValkeyClusterProxy
