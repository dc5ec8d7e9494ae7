import Mathlib
import Chatripper.Lib.Pages
import Chatripper.Core.Account
import Chatripper.Core.Tables

/-!
# Loading the database

What `Ctx::Ctx` does before it listens: the preload file adds servers, accounts and channels to the
database, then the channels, their members and the accounts are loaded.  Objects are made by
`create_from_db`, which gives what is cached if there is something.  A query that a constraint refuses
gives a null pointer.

* `account_get_or_create`, `server_get_or_create`, `channel_get_or_create`   a row and its object;
* `preload_from_file`                                      the preload file;
* `channel_get_all`, `channel_get_members`, `account_get_all`   the loaders;
* `Ctx.init`                                               all of it.

The members, roles and channels that a server keeps are left out: no loader reads them.
-/

namespace Chatripper
open ByteStr Utf8

abbrev SrvId := Nat

structure Server where
  m_uid : Uuid := 0
  m_name : Bytes := []
  m_owner : Option AccId := none

/-- what the initial load works on -/
structure Startup where
  w : World
  tables : Tables
  server : SrvId → Server
  nextSrv : Nat := 0
  servers_lookup_name : QHash Bytes SrvId := ∅
  servers_lookup_uuid : QHash Uuid SrvId := ∅
  /-- `Channel::m_owner` -/
  m_owner : ChanId → Option AccId
  /-- `Channel::m_server` -/
  m_server : ChanId → Option SrvId
  /-- how many uuids `createUuid` has made -/
  made : Nat := 0

/-- the functions of the libraries -/
structure StartupEnv where
  createUuid : Nat → Uuid
  hashPasswordBcrypt : Bytes → Bytes

/-! ## objects of rows -/

namespace Account
open Ctx

def create_from_db (id : Uuid) (username password : Bytes) (w : World) : AccId × World :=
  match get_by_name w username with
  | some ptr => (ptr, w)
  | none =>
    let a := w.nextAcc
    let w := { w with nextAcc := w.nextAcc + 1 }.updAcc a fun _ =>
      { m_uid := id, m_name := username, m_nick := username, m_password := password }
    let w := account_insert_cache a w
    (a, irc_nicks_insert_cache (w.accNick a) a w)

end Account

namespace Startup

def mapWorld (s : Startup) (f : World → World) : Startup := { s with w := f s.w }

def server_by_uid (s : Startup) (uid : Uuid) : Option SrvId := s.servers_lookup_uuid[uid]?

/-- `Server::create_from_db`, with `server_insert_cache` -/
def server_create_from_db (id : Uuid) (name : Bytes) (owner : Option AccId) (s : Startup) :
    SrvId × Startup :=
  match s.server_by_uid id with
  | some ptr => (ptr, s)
  | none =>
    let v := s.nextSrv
    (v, { s with
      nextSrv := v + 1
      server := fun x => if x = v then { m_uid := id, m_name := name, m_owner := owner } else s.server x
      servers_lookup_uuid := s.servers_lookup_uuid.insert id v
      servers_lookup_name :=
        if name = [] then s.servers_lookup_name else s.servers_lookup_name.insert name v })

/-- `Channel::create_from_db` -/
def channel_create_from_db (id : Uuid) (name topic : Bytes) (owner : Option AccId)
    (server : Option SrvId) (s : Startup) : ChanId × Startup :=
  match s.w.ctx.channels[name]? with
  | some ch => (ch, s)
  | none =>
    let ch := s.w.nextChan
    let w := { s.w with nextChan := ch + 1 }.updChan ch fun _ =>
      { uid := id, m_name := name, m_topic := topic }
    (ch, { s with
      w := w.updCtx fun x => { x with channels := x.channels.insert name ch }
      m_owner := fun x => if x = ch then owner else s.m_owner x
      m_server := fun x => if x = ch then server else s.m_server x })

/-- the account that a column refers to; a NULL reads as the null uuid -/
def accountOf (s : Startup) (uid : Uuid) : Option AccId :=
  if uid = 0 then none else Account.get_by_uid s.w uid

/-- the server that a column refers to -/
def serverOf (s : Startup) (uid : Uuid) : Option SrvId :=
  if uid = 0 then none else s.server_by_uid uid

def account_of_row (row : AccountRow) (s : Startup) : AccId × Startup :=
  let (a, w) := Account.create_from_db row.id row.username row.password s.w
  (a, { s with w })

def channel_of_row (row : ChannelRow) (s : Startup) : ChanId × Startup :=
  s.channel_create_from_db row.id row.name (row.topic.getD [])
    (s.accountOf (row.account_owner_id.getD 0)) (s.serverOf row.server_id)

/-! ## a row, made if there is none -/

section
variable (env : StartupEnv)

/-- `QUuid::createUuid` -/
def createUuid (s : Startup) : Uuid × Startup := (env.createUuid s.made, { s with made := s.made + 1 })

def account_get_or_create (username password : Bytes) (s : Startup) : Option AccId × Startup :=
  match s.w.ctx.accounts_lookup_name[username]? with
  | some a => (some a, s)
  | none =>
    match s.tables.accounts.find? fun r => r.username == toUtf8 (fromUtf8 username) with
    | some row => let (a, s) := s.account_of_row row; (some a, s)
    | none =>
      let (uuid, s) := s.createUuid env
      let hashedPassword := env.hashPasswordBcrypt password
      let row : AccountRow := ⟨uuid, toUtf8 (fromUtf8 username), hashedPassword⟩
      if h : s.tables.AdmitsAccount row then
        let s := { s with tables := s.tables.addAccount row h }
        let (a, w) := Account.create_from_db uuid username hashedPassword s.w
        (some a, { s with w })
      else (none, s)

def server_get_or_create (name : Bytes) (owner : AccId) (s : Startup) : Option SrvId × Startup :=
  match s.servers_lookup_name[name]? with
  | some v => (some v, s)
  | none =>
    match s.tables.servers.find? fun r => r.name == name with
    | some row =>
      let ownerPtr := Account.get_by_uid s.w row.account_owner_id
      let (v, s) := s.server_create_from_db row.id row.name ownerPtr
      (some v, s)
    | none =>
      let (uuid, s) := s.createUuid env
      let row : ServerRow := ⟨uuid, name, (s.w.acc owner).m_uid⟩
      if h : s.tables.AdmitsServer row then
        let s := { s with tables := s.tables.addServer row h }
        let (v, s) := s.server_create_from_db uuid name (some owner)
        (some v, s)
      else (none, s)

def channel_get_or_create (name topic : Bytes) (owner : Option AccId) (server : Option SrvId)
    (s : Startup) : Option ChanId × Startup :=
  match s.w.ctx.channels[name]? with
  | some ch => (some ch, s)
  | none =>
    match s.tables.channels.find? fun r => r.name == name with
    | some row => let (ch, s) := s.channel_of_row row; (some ch, s)
    | none =>
      match server with
      | none => (none, s)
      | some v =>
        let (uuid, s) := s.createUuid env
        let row : ChannelRow :=
          { id := uuid, server_id := (s.server v).m_uid, name, topic := some topic
            account_owner_id := owner.map fun a => (s.w.acc a).m_uid }
        if h : s.tables.AdmitsChannel row then
          let s := { s with tables := s.tables.addChannel row h }
          let (ch, s) := s.channel_create_from_db uuid name topic owner (some v)
          (some ch, s)
        else (none, s)

/-- `ON CONFLICT DO NOTHING` -/
def channel_add_member (account_id channel_id : Uuid) (s : Startup) : Startup :=
  if h : s.tables.AdmitsJoin ⟨account_id, channel_id⟩ then
    { s with tables := s.tables.addJoin _ h }
  else s

end

/-! ## the preload file -/

structure PreloadUser where
  name : QString
  password : QString

structure PreloadChannel where
  name : QString
  owner : QString
  topic : QString
  server : QString
  members : List QString

/-- the object in the file; a name that is not there is an empty one -/
structure Preload where
  servers : List QString
  users : List PreloadUser
  channels : List PreloadChannel

/-- the local variables of `preload_from_file` -/
structure Loading where
  s : Startup
  serversByName : QMap QString SrvId := ∅
  accountsByName : QMap QString AccId := ∅

section
variable (env : StartupEnv)

def preload_server (adminAccount : AccId) (p : Loading) (name : QString) : Loading :=
  let serverName := toUtf8 name
  match p.s.server_get_or_create env serverName adminAccount with
  | (none, s) => { p with s }
  | (some server, s) =>
    { p with s, serversByName := p.serversByName.insert (fromUtf8 serverName) server }

def preload_user (p : Loading) (user : PreloadUser) : Loading :=
  let uname := toUtf8 user.name
  match p.s.account_get_or_create env uname (toUtf8 user.password) with
  | (none, s) => { p with s }
  | (some account, s) =>
    { p with s, accountsByName := p.accountsByName.insert (fromUtf8 uname) account }

/-- a member that no user has the name of is skipped -/
def preload_member (accountsByName : QMap QString AccId) (channel : ChanId) (s : Startup)
    (mname : QString) : Startup :=
  match accountsByName[mname]? with
  | none => s
  | some member => s.channel_add_member (s.w.acc member).m_uid (s.w.chan channel).uid

def preload_channel (p : Loading) (channel : PreloadChannel) : Loading :=
  let owner := p.accountsByName[channel.owner]?
  let server := p.serversByName[channel.server]?
  match p.s.channel_get_or_create env (toUtf8 channel.name) (toUtf8 channel.topic) owner server with
  | (none, s) => { p with s }
  | (some ch, s) => { p with s := channel.members.foldl (preload_member p.accountsByName ch) s }

/-- `none` for a file that cannot be opened or parsed -/
def preload_from_file (file : Option Preload) (s : Startup) : Startup :=
  match file with
  | none => s
  | some root =>
    match s.account_get_or_create env (ascii "admin") (ascii "admin") with
    | (none, s) => s
    | (some adminAccount, s) =>
      let p := root.servers.foldl (preload_server env adminAccount) { s }
      let p := { p with accountsByName := p.accountsByName.insert ("admin".toList) adminAccount }
      let p := root.users.foldl (preload_user env) p
      (root.channels.foldl (preload_channel env) p).s

end

/-! ## the loaders -/

/-- the object of a row, appended to a list -/
def append_channel (p : List ChanId × Startup) (row : ChannelRow) : List ChanId × Startup :=
  let (ch, s) := p.2.channel_of_row row
  (p.1 ++ [ch], s)

def append_account (p : List AccId × Startup) (row : AccountRow) : List AccId × Startup :=
  let (a, s) := p.2.account_of_row row
  (p.1 ++ [a], s)

def channel_get_all (s : Startup) : List ChanId × Startup :=
  Pages.foldPages 100 append_channel s.tables.channels 0 ([], s)

def channel_get_members (channel_id : Uuid) (s : Startup) : List AccId × Startup :=
  if channel_id = 0 then ([], s) else (s.tables.members channel_id).foldl append_account ([], s)

/-- `Channel::addMembers` -/
def addMembers (ch : ChanId) (accounts : List AccId) (s : Startup) : Startup :=
  s.mapWorld fun w =>
    accounts.foldl (fun w acc =>
      (w.updChan ch fun c => { c with m_members := c.m_members ++ [acc] }).updAcc acc fun a =>
        { a with
          channels := a.channels.insert (w.chan ch).m_name w.ctx.channels[(w.chan ch).m_name]? }) w

def account_get_all (s : Startup) : List AccId × Startup :=
  Pages.foldPages 100 append_account s.tables.accounts 0 ([], s)

/-- one round of the loop over the channels -/
def loadMembers (s : Startup) (channel : ChanId) : Startup :=
  let s := s.mapWorld fun w => w.updCtx fun x =>
    { x with channels := x.channels.insert (w.chan channel).m_name channel }
  let (accounts_channels, s) := s.channel_get_members (s.w.chan channel).uid
  s.addMembers channel accounts_channels

/-- the database, and nothing in memory -/
def ofTables (tables : Tables) : Startup where
  w := { conn := fun _ => {}, acc := fun _ => {}, chan := fun _ => { m_name := [] } }
  tables := tables
  server := fun _ => {}
  m_owner := fun _ => none
  m_server := fun _ => none

/-- the initial load, after the preload file -/
def load (s : Startup) : Startup :=
  let (channels, s) := s.channel_get_all
  (channels.foldl loadMembers s).account_get_all.2

end Startup

/-- the initial load of `Ctx::Ctx` -/
def Ctx.init (env : StartupEnv) (tables : Tables) (file : Option Startup.Preload) : Startup :=
  ((Startup.ofTables tables).preload_from_file env file).load

end Chatripper
