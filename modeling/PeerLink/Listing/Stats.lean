import PeerLink.Cli.Options
import PeerLink.Link.Stats
import PeerLink.Listing.Table
import PeerLink.Text.Json

/-! # Snapshots as text

How a snapshot of a region is shown: as a JSON object, as two boxes, or as plain lines.

* `RegionStats.listing`: a snapshot in a format.
-/

namespace PeerLink.RegionStats

/-- What the JSON form of a snapshot is called. -/
def schema : String :=
  "https://schemas.3leaps.dev/eshm/cli/v1/region-stats.schema.json"

def roleJson (s : RoleStats) : Json.Value :=
  .object
    [("pid", Json.ofNat s.pid.toNat), ("alive", .bool s.alive),
      ("heartbeat", Json.ofNat s.heartbeat.toNat),
      ("heartbeat_delta", Json.ofNat s.heartbeatDelta.toNat),
      ("generation", Json.ofNat s.generation.toNat)]

def channelJson (s : ChannelStats) : Json.Value :=
  .object
    [("write_count", Json.ofNat s.writeCount.toNat), ("read_count", Json.ofNat s.readCount.toNat)]

def json (s : RegionStats) : Json.Value :=
  .object
    [("schema_id", .string schema), ("name", .string s.name),
      ("stale_threshold_ms", Json.ofNat s.staleThresholdMs.toNat), ("master", roleJson s.master),
      ("slave", roleJson s.slave), ("master_to_slave", channelJson s.masterToSlave),
      ("slave_to_master", channelJson s.slaveToMaster),
      ("lock_reclaims", Json.ofNat s.lockReclaims.toNat)]

def flagText (b : Bool) : String := if b then "true" else "false"

def roleTable (s : RegionStats) : Table :=
  let row (label : String) (r : RoleStats) : List String :=
    [label, toString r.pid.toNat, flagText r.alive, toString r.heartbeat.toNat,
      toString r.generation.toNat]
  ⟨["ROLE", "PID", "ALIVE", "HEARTBEAT", "GENERATION"],
    [row "master" s.master, row "slave" s.slave]⟩

def channelTable (s : RegionStats) : Table :=
  let row (label : String) (c : ChannelStats) : List String :=
    [label, toString c.writeCount.toNat, toString c.readCount.toNat]
  ⟨["DIRECTION", "WRITES", "READS"],
    [row "master -> slave" s.masterToSlave, row "slave -> master" s.slaveToMaster]⟩

def lines (s : RegionStats) : List String :=
  let role (label : String) (r : RoleStats) : String :=
    s!"  {label}: pid={r.pid.toNat} alive={flagText r.alive} heartbeat={r.heartbeat.toNat} "
      ++ s!"generation={r.generation.toNat}"
  let channel (label : String) (c : ChannelStats) : String :=
    s!"  {label}: writes={c.writeCount.toNat} reads={c.readCount.toNat}"
  [s!"region={s.name} stale_threshold_ms={s.staleThresholdMs.toNat} "
      ++ s!"lock_reclaims={s.lockReclaims.toNat}",
    role "master" s.master, role "slave" s.slave,
    channel "master->slave" s.masterToSlave, channel "slave->master" s.slaveToMaster]

def listing (format : OutputFormat) (s : RegionStats) : String :=
  let shown := match format with
    | .json | .raw => [s.json.render]
    | .table =>
      [s!"region {s.name} (stale threshold {s.staleThresholdMs.toNat} ms, "
          ++ s!"lock reclaims {s.lockReclaims.toNat})",
        s.roleTable.render, s.channelTable.render]
    | .pretty => s.lines
  String.join (shown.map (· ++ "\n"))

end PeerLink.RegionStats
