import HostReport.Settings
import HostReport.Text.Columns

/-!
# Labels and lines

The labels of a report in both languages and its two fixed messages. A line is a label that fills
twenty columns after a leading space, a colon between spaces, and a value. How many columns a text
takes is for a library to say; the measure that is used unless another one is given is
`Text.columns`.
-/

namespace HostReport

/-- What a line of a report is about. -/
inductive Label where
  | cpuModel | cpuCores | cpuCache | aesNi | virtualization | ram | virtioBalloon | ksm | swap
  | disk | bootPath | gpuModel | gpuStats | osRelease | kernel | uptime | timezone | load | vmType
  | natType | tcpAcceleration | ipv4Asn | ipv4Location | ipv6Asn | ipv6Location | ipv6Mask
  deriving DecidableEq, Repr

namespace Label

/-- All labels. -/
def all : List Label :=
  [cpuModel, cpuCores, cpuCache, aesNi, virtualization, ram, virtioBalloon, ksm, swap, disk,
    bootPath, gpuModel, gpuStats, osRelease, kernel, uptime, timezone, load, vmType, natType,
    tcpAcceleration, ipv4Asn, ipv4Location, ipv6Asn, ipv6Location, ipv6Mask]

/-- The key by which a label is looked up. -/
def key : Label → String
  | cpuModel => "cpu_model"
  | cpuCores => "cpu_cores"
  | cpuCache => "cpu_cache"
  | aesNi => "aes_ni"
  | virtualization => "vah"
  | ram => "ram"
  | virtioBalloon => "virtio_balloon"
  | ksm => "ksm"
  | swap => "swap"
  | disk => "disk"
  | bootPath => "boot_path"
  | gpuModel => "gpu_model"
  | gpuStats => "gpu_stats"
  | osRelease => "os_release"
  | kernel => "kernel"
  | uptime => "uptime"
  | timezone => "timezone"
  | load => "load"
  | vmType => "vm_type"
  | natType => "nat_type"
  | tcpAcceleration => "tcp_acceleration"
  | ipv4Asn => "ipv4_asn"
  | ipv4Location => "ipv4_location"
  | ipv6Asn => "ipv6_asn"
  | ipv6Location => "ipv6_location"
  | ipv6Mask => "ipv6_mask"

/-- The label in English. -/
def english : Label → String
  | cpuModel => "CPU Model"
  | cpuCores => "CPU Cores"
  | cpuCache => "CPU Cache"
  | aesNi => "AES-NI"
  | virtualization => "VM-x/AMD-V/Hyper-V"
  | ram => "RAM"
  | virtioBalloon => "Virtio Balloon"
  | ksm => "KSM"
  | swap => "Swap"
  | disk => "Disk"
  | bootPath => "Boot Path"
  | gpuModel => "GPU Model"
  | gpuStats => "GPU Stats"
  | osRelease => "OS Release"
  | kernel => "Kernel"
  | uptime => "Uptime"
  | timezone => "Timezone"
  | load => "Load"
  | vmType => "VM Type"
  | natType => "NAT Type"
  | tcpAcceleration => "TCP Acceleration"
  | ipv4Asn => "IPV4 ASN"
  | ipv4Location => "IPV4 Location"
  | ipv6Asn => "IPV6 ASN"
  | ipv6Location => "IPV6 Location"
  | ipv6Mask => "IPv6 Mask"

/-- The label in Chinese. -/
def chinese : Label → String
  | cpuModel => "CPU 型号"
  | cpuCores => "CPU 数量"
  | cpuCache => "CPU 缓存"
  | aesNi => "AES-NI"
  | virtualization => "VM-x/AMD-V/Hyper-V"
  | ram => "内存"
  | virtioBalloon => "气球驱动"
  | ksm => "内核页合并"
  | swap => "虚拟内存 Swap"
  | disk => "硬盘空间"
  | bootPath => "启动盘路径"
  | gpuModel => "GPU 型号"
  | gpuStats => "GPU 状态"
  | osRelease => "系统"
  | kernel => "内核"
  | uptime => "系统在线时间"
  | timezone => "时区"
  | load => "负载"
  | vmType => "虚拟化架构"
  | natType => "NAT类型"
  | tcpAcceleration => "TCP加速方式"
  | ipv4Asn => "IPV4 ASN"
  | ipv4Location => "IPV4 位置"
  | ipv6Asn => "IPV6 ASN"
  | ipv6Location => "IPV6 位置"
  | ipv6Mask => "IPv6 子网掩码"

/-- The label in a language. -/
def text (l : Label) : Language → String
  | .english => l.english
  | .chinese => l.chinese

/-- The label with this key. -/
def ofKey (key : String) : Except Fault Label :=
  match all.find? (·.key = key) with
  | some l => .ok l
  | none => .error .missingKey

/-- The columns that labels are filled up to. -/
def width : Nat := 20

/-- The left part of a line: the label, filled up with at least one space, and a colon. -/
def head (l : Label) (language : Language) (columns : List Char → Nat := Text.columns) : String :=
  let text := l.text language
  let pad := max (width - columns text.toList) 1
  " " ++ text ++ String.ofList (List.replicate pad ' ') ++ ": "

/-- A line of the report. -/
def line (l : Label) (value : String) (language : Language)
    (columns : List Char → Nat := Text.columns) : String :=
  l.head language columns ++ value ++ "\n"

end Label

/-- A message with a fixed text. -/
inductive Message where
  | noSwap
  | pressEnter
  deriving DecidableEq, Repr

namespace Message

/-- The key by which a message is looked up. -/
def key : Message → String
  | noSwap => "no_swap"
  | pressEnter => "press_enter"

/-- The message in a language. -/
def text : Message → Language → String
  | noSwap, .english => "[ no swap partition or swap file detected ]"
  | noSwap, .chinese => "[ 未检测到交换分区或交换文件 ]"
  | pressEnter, .english => "Press Enter to exit..."
  | pressEnter, .chinese => "按回车键退出..."

/-- The message with this key. -/
def ofKey (key : String) : Except Fault Message :=
  match [noSwap, pressEnter].find? (·.key = key) with
  | some m => .ok m
  | none => .error .missingKey

end Message

end HostReport
