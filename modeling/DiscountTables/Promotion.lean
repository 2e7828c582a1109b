import DiscountTables.Store.Basic

namespace DiscountTables

structure Promotion where
  winner : String
  copied : Bool
  deriving DecidableEq, Repr

inductive PromotionError where
  | noCandidates (keyPrefix : String)
  | store (e : StoreError)
  deriving DecidableEq, Repr

def PromotionError.message : PromotionError → String
  | noCandidates keyPrefix => "no candidate rule documents under prefix '" ++ keyPrefix ++ "'"
  | store e => e.message

namespace ObjectInfo

def older (a b : ObjectInfo) : Bool :=
  a.modified < b.modified || (a.modified == b.modified && a.key < b.key)

def newer (a b : ObjectInfo) : ObjectInfo := if a.older b then b else a

def newest? : List ObjectInfo → Option ObjectInfo
  | [] => none
  | o :: rest => some (rest.foldl newer o)

end ObjectInfo

def promote {σ α : Type} [ObjectStore σ α] (keyPrefix aliasKey : String) :
    StoreAction σ PromotionError Promotion := do
  let candidates ← (ObjectStore.list keyPrefix).adapt PromotionError.store
  match ObjectInfo.newest? candidates with
  | none => throw (.noCandidates keyPrefix)
  | some newest =>
    if newest.key = aliasKey then return ⟨newest.key, false⟩
    else
      (ObjectStore.copy newest.key aliasKey).adapt PromotionError.store
      return ⟨newest.key, true⟩

end DiscountTables
