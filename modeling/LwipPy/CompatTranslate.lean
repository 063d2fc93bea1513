import LwipPy.World

/-! `compat_translate`: socket option numbers of Python's `socket` module to those of lwIP. -/
namespace LwipPy
namespace CompatTranslate

structure TranslateEntry where
  name : String
  lwipValue : ℤ
  socketValue : ℤ
  deriving DecidableEq

def TranslateEntry.repr (e : TranslateEntry) : String :=
  s!"TranslateEntry(name='{e.name}', lwip_value={e.lwipValue}, socket_value={e.socketValue})"

def dir (m : Constants) : List String := m.keys.mergeSort fun a b => decide (a ≤ b)

variable (env : Env)

def yieldSocketLwipMatchingEntries (predicate : String → Bool) : List TranslateEntry :=
  ((dir env.lwipDefs).filter predicate).filterMap fun key => do
    let lwipValue ← env.lwipDefs.get? key
    let socketValue ← env.socketDefs.get? key
    return ⟨key,lwipValue,socketValue⟩

abbrev LevelEntry := TranslateEntry × OrderedDict ℤ TranslateEntry

def yieldSockoptTranslateEntry (levelName : String) (optEntries : List TranslateEntry) :
    List (ℤ × LevelEntry) :=
  match env.socketDefs.get? levelName, env.lwipDefs.get? levelName with
  | some socketValue, some lwipValue =>
    [(socketValue,⟨levelName,lwipValue,socketValue⟩,
      OrderedDict.ofPairs (optEntries.map fun e => (e.socketValue,e)))]
  | _, _ => []

/-- The option groups: the name of the level and the predicate on option names. -/
def groups : List (String × (String → Bool)) :=
  [("SOL_SOCKET",fun s => s.startsWith "SO_"),
    ("IPPROTO_IP",fun s => s.startsWith "IP_"),
    ("IPPROTO_TCP",fun s => s.startsWith "TCP_"),
    ("IPPROTO_IPV6",fun s => s.startsWith "IPV6_"),
    ("IPPROTO_UDPLITE",fun s => s.startsWith "UDPLITE_"),
    ("IPPROTO_RAW",fun s => s == "IPV6_CHECKSUM")]

def sockoptTranslateTable : OrderedDict ℤ LevelEntry :=
  OrderedDict.ofPairs (groups.flatMap fun g =>
    yieldSockoptTranslateEntry env g.1 (yieldSocketLwipMatchingEntries env g.2))

def translateSockopt (level optname : ℤ) : Except PyErr (ℤ × ℤ) :=
  match (sockoptTranslateTable env).get? level with
  | none => .error (.valueError s!"No corresponding level for {level}")
  | some (levelEntry,optnameTranslateTable) =>
    match optnameTranslateTable.get? optname with
    | none => .error (.valueError
        s!"No corresponding optname for {optname} in level {levelEntry.repr}")
    | some optnameEntry => .ok (levelEntry.lwipValue,optnameEntry.lwipValue)

end CompatTranslate
end LwipPy
