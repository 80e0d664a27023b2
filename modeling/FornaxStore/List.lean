import FornaxStore.Store

/-!
# GetList

`GetList` は `kvList` を添字の順に走る。出発点は三通り。

* continue token があれば、token の key がまだ同じ revision で居ればその slot の位置、
  revision が変わっていれば `binarySearchInObjList`、key が消えていれば 0
* resource version が正なら `binarySearchInObjList`
* それ以外は 0

`binarySearchInObjList` は Go の `sort.Search` で、空の slot には偽と答える。
`sort.Search` は述語が単調なときにだけ境目を返すので、空の slot が途中にあると
境目より先を返しうる。`sort.Search` のループは区間を半分ずつ縮めるので、区間の長さを fuel にした
構造的な再帰で書く。

出発点が決まった後の走査と continue token 作りは `listFrom` にまとめる。

continue token の codec（`store.EncodeContinue`・`store.DecodeContinue`）は src/ にないので、
`ContinueCodec` として引数に取る。一頁の上限が無いとき Go は `math.MaxInt64` を置くが、
slice の長さはそこに届かないので、上限なし（`none`）として持つ。
-/

namespace FornaxStore

/-- Go の `sort.Search` のループ：`[i, j)` を半分ずつ狭め、`f` が真になる最小の位置を探す。
一回ごとに `[i, j)` は少なくとも一つ縮むので、`fuel` が `j - i` 以上なら Go と同じ値になる。 -/
def sortSearchLoop (f : Nat → Bool) : Nat → Nat → Nat → Nat
  | 0, i, _ => i
  | fuel + 1, i, j =>
    if i < j then
      let h := (i + j) / 2
      if !f h then sortSearchLoop f fuel (h + 1) j else sortSearchLoop f fuel i h
    else i

/-- `sort.Search(n, f)`。 -/
def sortSearch (n : Nat) (f : Nat → Bool) : Nat := sortSearchLoop f n 0 n

/-- list と watch の match 規則。`NotOlderThan` は `rv ≥ withRV`、`Exact` と `""` は
`rv > withRV`、それ以外は `unknownMsg` の誤り。 -/
def resourceVersionMatches (unknownMsg rvMatch : String) (rv withRV : Nat) :
    Except StoreError Bool :=
  if rvMatch = resourceVersionMatchNotOlderThan then .ok (decide (withRV ≤ rv))
  else if rvMatch = resourceVersionMatchExact then .ok (decide (withRV < rv))
  else if rvMatch = "" then .ok (decide (withRV < rv))
  else .error (.other (unknownMsg ++ rvMatch))

/-- `GetList` の match 規則。 -/
def listMatches (rvMatch : String) (rv withRV : Nat) : Except StoreError Bool :=
  resourceVersionMatches "unknown ResourceVersionMatch value: " rvMatch rv withRV

/-- Modelled from the spec: `store.AppendListItem`。選択子に合う object だけを足す。 -/
def appendListItem (items : List Obj) (obj : Obj) (pred : SelectionPredicate) : List Obj :=
  if pred.matchesObj obj then items ++ [obj] else items

/-- Modelled from the spec: continue token の codec。token は `(lastKey, keyPrefix, revision)` を
運ぶ不透明な文字列。 -/
structure ContinueCodec where
  encodeContinue : String → String → Nat → Except String String
  decodeContinue : String → String → Except String (String × Int)

/-- `store.UpdateList(listObj, rv, continue, remainingItemCount)` が書くものと、集めた items。 -/
structure ListResult where
  items : List Obj
  resourceVersion : Nat
  continueToken : String
  remainingItemCount : Option Nat
  deriving DecidableEq, Repr

/-- `GetList` の走査ループが持ち回る値。 -/
structure ListScan where
  items : List Obj
  lastKey : String
  lastRev : Nat
  hasMore : Bool
  remainingItemCount : Nat
  deriving DecidableEq, Repr

/-- ループの一回分のうち limit を見る前まで。prefix が合わず `continue` するときは
`false`（limit を見ない）を返す。 -/
def visitSlot (keyPrefix rvMatch : String) (withRV : Nat) (pred : SelectionPredicate)
    (st : ListScan) : Option ObjWithIndex → Except StoreError (ListScan × Bool)
  | none => .ok (st, true)
  | some v =>
    let st := { st with lastKey := v.key, lastRev := v.obj.resourceVersion }
    if !hasPrefix v.key keyPrefix then .ok (st, false)
    else
      match listMatches rvMatch v.obj.resourceVersion withRV with
      | .error err => .error err
      | .ok true => .ok ({ st with items := appendListItem st.items v.obj pred }, true)
      | .ok false => .ok (st, true)

/-- `for i := searchingIndex; i < listBufferLen; i++` のループ。`slots` は `kvList` の `i` から先、
`len` は `listBufferLen`。集めた数が limit に達したら、後ろに slot が残っていれば
`hasMore` を立てて抜ける。 -/
def scanList (keyPrefix rvMatch : String) (withRV : Nat) (pred : SelectionPredicate)
    (limit : Option Nat) (len : Nat) :
    List (Option ObjWithIndex) → Nat → ListScan → Except StoreError ListScan
  | [], _, st => .ok st
  | v :: rest, i, st =>
    match visitSlot keyPrefix rvMatch withRV pred st v with
    | .error err => .error err
    | .ok (st, checkLimit) =>
      if checkLimit ∧ limit = some st.items.length then
        .ok (if i < len - 1 then { st with remainingItemCount := len - 1 - i, hasMore := true }
          else st)
      else scanList keyPrefix rvMatch withRV pred limit len rest (i + 1) st

/-- recursive な list の prefix：末尾に `/` が無ければ補う。 -/
def listKeyPrefix (key : String) : String := if hasSuffix key "/" then key else key ++ "/"

namespace MemoryStore

/-- `binarySearchInObjList(rv)`：空でない slot の revision が `rv` 以上になる位置を
`sort.Search` で探す。空の slot には偽と答える。 -/
def binarySearchInObjList (ms : MemoryStore) (rv : Nat) : Nat :=
  sortSearch ms.kvList.length fun i =>
    match ms.kvList[i % ms.kvList.length]? with
    | some (some obj) => decide (rv ≤ obj.obj.resourceVersion)
    | _ => false

/-- `GetList` と `getSingleObjectAsList` の `fromRV`：空でなければ読む。 -/
def parseFromRV (resourceVersion : String) : Except StoreError (Option Nat) :=
  if resourceVersion = "" then .ok none
  else
    match parseResourceVersion resourceVersion with
    | .error _ => .error (.badRequest ("invalid resource version: " ++ resourceVersion))
    | .ok rv => .ok (some rv)

/-- `GetList` の `switch`：`(returnedRV, withRV, searchingIndex)` を決める。 -/
def listStart (codec : ContinueCodec) (ms : MemoryStore) (keyPrefix resourceVersion : String)
    (fromRV : Option Nat) (pred : SelectionPredicate) : Except StoreError (Nat × Nat × Nat) :=
  if pred.continueToken ≠ "" then
    if resourceVersion ≠ "" ∧ resourceVersion ≠ "0" then
      .error (.badRequest "specifying resource version is not allowed when using continue")
    else
      match codec.decodeContinue pred.continueToken keyPrefix with
      | .error err => .error (.badRequest ("invalid continue token: " ++ err))
      | .ok (continueKey, continueRV) =>
        if continueRV = 0 then
          .error (.badRequest "0 continue resource version is not allowed when using continue")
        else
          let withRV := continueRV.toNat
          let returnedRV := if 0 < continueRV then withRV else 1
          let searchingIndex := match ms.kvs.get (splitKey continueKey) with
            | none => 0
            | some obj =>
              if obj.obj.resourceVersion = withRV then obj.index
              else ms.binarySearchInObjList withRV
          .ok (returnedRV, withRV, searchingIndex)
  else
    match fromRV with
    | some rv => if 0 < rv then .ok (rv, rv, ms.binarySearchInObjList rv) else .ok (1, 0, 0)
    | none => .ok (1, 0, 0)

/-- `getSingleObjectAsList`：recursive でない list。`Exact` は revision の一致を見る。 -/
def getSingleObjectAsList (ms : MemoryStore) (key : String) (opts : ListOptions) :
    Except StoreError ListResult :=
  let pred := opts.predicate
  match parseFromRV opts.resourceVersion with
  | .error err => .error err
  | .ok fromRV =>
    match ms.kvs.get (splitKey key) with
    | none => .ok ⟨[], ms.memoryRev, "", none⟩
    | some obj =>
      let rv := obj.obj.resourceVersion
      let items : Except StoreError (List Obj) :=
        match fromRV with
        | none => .ok (appendListItem [] obj.obj pred)
        | some fromRV =>
          if opts.resourceVersionMatch = resourceVersionMatchNotOlderThan then
            .ok (if fromRV ≤ rv then appendListItem [] obj.obj pred else [])
          else if opts.resourceVersionMatch = resourceVersionMatchExact then
            .ok (if rv = fromRV then appendListItem [] obj.obj pred else [])
          else if opts.resourceVersionMatch = "" then
            .ok (if fromRV < rv then appendListItem [] obj.obj pred else [])
          else .error (.other ("unknown ResourceVersionMatch value: " ++ opts.resourceVersionMatch))
      match items with
      | .error err => .error err
      | .ok items => .ok ⟨items, rv, "", none⟩

/-- `GetList` の後半：`searchingIndex` から `kvList` を走り、limit で止まって後ろに slot が残れば
continue token を作る。 -/
def listFrom (codec : ContinueCodec) (ms : MemoryStore) (keyPrefix rvMatch : String)
    (pred : SelectionPredicate) (returnedRV withRV searchingIndex : Nat) :
    Except StoreError ListResult :=
  if ms.kvList.length ≤ searchingIndex then .ok ⟨[], returnedRV, "", none⟩
  else
    let limit := if 0 < pred.limit then some pred.limit.toNat else none
    match scanList keyPrefix rvMatch withRV pred limit ms.kvList.length
        (ms.kvList.drop searchingIndex) searchingIndex ⟨[], "", withRV, false, 0⟩ with
    | .error err => .error err
    | .ok st =>
      if st.hasMore then
        match codec.encodeContinue st.lastKey keyPrefix st.lastRev with
        | .error err => .error (.other err)
        | .ok token =>
          .ok ⟨st.items, returnedRV, token, if pred.empty then some st.remainingItemCount else none⟩
      else .ok ⟨st.items, returnedRV, "", none⟩

/-- `GetList`。recursive なら key の末尾に `/` を補って prefix とし、出発点から走る。 -/
def getList (codec : ContinueCodec) (ms : MemoryStore) (key : String) (opts : ListOptions) :
    Except StoreError ListResult :=
  if !opts.recursive then ms.getSingleObjectAsList key opts
  else
    let keyPrefix := listKeyPrefix key
    let pred := opts.predicate
    match parseFromRV opts.resourceVersion with
    | .error err => .error err
    | .ok fromRV =>
      match ms.listStart codec keyPrefix opts.resourceVersion fromRV pred with
      | .error err => .error err
      | .ok (returnedRV, withRV, searchingIndex) =>
        ms.listFrom codec keyPrefix opts.resourceVersionMatch pred returnedRV withRV searchingIndex

end MemoryStore

end FornaxStore
